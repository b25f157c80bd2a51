import Mathlib.Data.List.TakeWhile
import RecordFilter.Proofs.Filter.WrittenCounts
import RecordFilter.Proofs.Filter.WrittenNumbers
/-!
# How integers are written

An integer is given as a number of the document or as a text of its digits. A number is read
exactly; digits are read exactly where the integer fits 64 bits with a sign, and are the nearest
double above that. Between `2 ^ 63` and `2 ^ 64` only the multiples of 2048 are doubles.

## Main definitions

* `WrittenInt`, `WrittenInt.read` — an integer with its spelling, and the number that is read of it.

## Main statements

* `Number.ofText?_intText` — digits.
* `Binary64.toRat?_ofInt` — the double nearest to a large integer.
* `Attribute.coerce_toJson` — integers as values of attributes.
-/
namespace RecordFilter

/-! ## Digits -/

namespace Text

theorem readNat?_natDigits (n : Nat) : readNat? (natDigits n) = some n :=
  readNat?_eq_some_iff.2
    ⟨Nat.toDigits_ne_nil, fun _ => isDigit_of_mem_natDigits, ofDigits_natDigits n⟩

/-- A digit is no sign. -/
theorem natDigits_ne_cons {n : Nat} {c : Char} {cs : List Char} (hc : c.isDigit = false) :
    natDigits n ≠ c :: cs := by
  intro h
  have hdigit : c.isDigit = true := isDigit_of_mem_natDigits (n := n) (by simp [h])
  rw [hc] at hdigit
  cases hdigit

theorem readInt?_intDigits (z : Int) : readInt? (intDigits z) = some z := by
  cases z with
  | ofNat n =>
    have hdigits := readNat?_natDigits n
    unfold readInt? intDigits
    split
    · next h => exact absurd h (natDigits_ne_cons rfl)
    · next h => exact absurd h (natDigits_ne_cons rfl)
    · simp [hdigits]
  | negSucc n =>
    rw [intDigits, readInt?, readNat?_natDigits]
    rfl

theorem isBlank_of_mem_intDigits {z : Int} {c : Char} (h : c ∈ intDigits z) :
    isBlank c = false := by
  cases z with
  | ofNat n => exact isBlank_of_isDigit (isDigit_of_mem_natDigits h)
  | negSucc n =>
    rcases List.mem_cons.1 h with rfl | h
    · rfl
    · exact isBlank_of_isDigit (isDigit_of_mem_natDigits h)

theorem intDigits_ne_nil (z : Int) : intDigits z ≠ [] := by
  cases z with
  | ofNat n => exact Nat.toDigits_ne_nil
  | negSucc n => simp [intDigits]

theorem trim_intText (z : Int) : trim (intText z) = intText z := by
  have h := @trimChars_append [] (intDigits z) [] (by simp) (intDigits_ne_nil z)
    (fun _ => isBlank_of_mem_intDigits) (by simp)
  rw [trim, toList_intText, intText]
  simpa using congrArg String.ofList h

theorem toLower_of_isDigit {c : Char} (h : c.isDigit = true) : c.toLower = c := by
  simp only [Char.isDigit, Bool.and_eq_true, decide_eq_true_eq, UInt32.le_iff_toNat_le] at h
  refine dif_neg fun hupper => ?_
  have hfirst := UInt32.le_iff_toNat_le.1 hupper.1
  have hnine : ('9'.val : UInt32).toNat = 57 := rfl
  have hA : ('A'.val : UInt32).toNat = 65 := rfl
  omega

theorem map_toLower_natDigits (n : Nat) : (natDigits n).map Char.toLower = natDigits n :=
  (List.map_congr_left fun _ hc => toLower_of_isDigit (isDigit_of_mem_natDigits hc)).trans
    (List.map_id _)

theorem spanDigits_natDigits (n : Nat) : spanDigits (natDigits n) = (natDigits n, []) := by
  have hdigits : ∀ c ∈ natDigits n, c.isDigit = true := fun _ => isDigit_of_mem_natDigits
  rw [spanDigits, List.takeWhile_eq_self_iff.2 hdigits, List.dropWhile_eq_nil_iff.2 hdigits]

end Text

/-! ## Doubles of integers -/

namespace Binary64

theorem ofDecimal_zero {n : Nat} (h : n < nat64Bound) : ofDecimal n 0 = ofNat n := by
  have hlength := Text.length_natDigits_le (n := n) (k := 20)
    (Nat.lt_trans h (by decide +kernel)) (by decide)
  -- so few digits are not too small or too large for a double
  by_cases hn : n = 0
  · rw [hn]
    rfl
  · have hlow : ¬ ((Text.natDigits n).length : Int) + 0 < -330 := by omega
    have hhigh : ¬ 330 < ((Text.natDigits n).length : Int) + 0 := by omega
    rw [Int.add_zero] at hlow hhigh
    simp [ofDecimal, hn, hlow, hhigh, ofNat]

/-- Digits without a point or a power of ten are read as the double nearest to the integer. -/
theorem ofText?_natText {n : Nat} (h : n < nat64Bound) :
    ofText? (Text.natText n) = some (ofNat n) := by
  have hread : readUnsigned? (Text.natDigits n) = some (ofNat n) := by
    have hne : Text.natDigits n ≠ [] := Nat.toDigits_ne_nil
    simp [readUnsigned?, Text.map_toLower_natDigits, Text.natDigits_ne_cons,
      Text.spanDigits_natDigits, hne, readExponent?, Text.ofDigits_natDigits, ofDecimal_zero h]
  unfold ofText?
  rw [Text.toList_natText]
  split
  · next hminus => exact absurd hminus (Text.natDigits_ne_cons rfl)
  · next hplus => exact absurd hplus (Text.natDigits_ne_cons rfl)
  · exact hread

variable {num den n : Nat}

/-- A quotient is rounded to the integer itself if it is one, and to no other multiple. -/
theorem mul_roundHalfEven_eq_iff (hden : 0 < den) :
    den * roundHalfEven num den = num ↔ den ∣ num := by
  refine ⟨fun h => h ▸ Nat.dvd_mul_right den _, fun h => ?_⟩
  have hmod : num % den = 0 := Nat.mod_eq_zero_of_dvd h
  have hround : roundHalfEven num den = num / den := by
    simp [roundHalfEven, hmod, hden.ne]
  rw [hround, Nat.mul_div_cancel' h]

/-- A quotient is rounded by at most a half. -/
theorem roundHalfEven_bounds (hden : 0 < den) :
    2 * num ≤ 2 * (den * roundHalfEven num den) + den ∧
      2 * (den * roundHalfEven num den) ≤ 2 * num + den := by
  have hdiv := Nat.div_add_mod num den
  have hmod := Nat.mod_lt num hden
  simp only [roundHalfEven, Bool.or_eq_true, decide_eq_true_eq, Bool.and_eq_true, beq_iff_eq]
  split
  · next h =>
    rw [Nat.mul_add, Nat.mul_one]
    omega
  · next h => omega

/-- Doubles between `2 ^ 63` and `2 ^ 64` are multiples of 2048. -/
theorem toRat?_ofNat (hlow : 9223372036854775808 ≤ n) (hhigh : n < nat64Bound) :
    (ofNat n).toRat? = some ((2048 * roundHalfEven n 2048 : Nat) : Rat) := by
  have hlog : n.log2 = 63 := by
    rw [Nat.log2_eq_iff (by omega)]
    exact ⟨hlow, hhigh⟩
  have hfloor : floorLog2 n 1 = 63 := by
    have hguess : (n.log2 : Int) - ((1 : Nat).log2 : Int) = 63 := by
      rw [hlog]
      rfl
    have hscale : scale n 1 63 = (n, 9223372036854775808) := rfl
    simp only [floorLog2, hguess, hscale, hlow, if_true]
  have hexponent : max minExponent (floorLog2 n 1 - 52) = 11 := by
    rw [hfloor]
    rfl
  have hne : n ≠ 0 := by omega
  have hscale : scale n 1 11 = (n, 2048) := rfl
  simp only [ofNat, ofRatio, hne, if_false, hexponent, hscale, normalize]
  -- a significand that has been rounded up to `2 ^ 53` is halved
  split
  · next hcarry =>
    rw [hcarry]
    decide +kernel
  · have hratio : ratio (roundHalfEven n 2048) 11 = (roundHalfEven n 2048 * 2048, 1) := rfl
    have hexponent : ¬ maxExponent < 11 := by decide
    simp only [hexponent, if_false, toRat?, hratio, Rat.mkRat_one, Nat.mul_comm 2048]
    rfl

end Binary64

/-! ## Integers in two spellings -/

/-- The integer fits 64 bits, with a sign or without one. -/
def Takes64Bits (z : Int) : Prop := -9223372036854775808 ≤ z ∧ z < 18446744073709551616

theorem Takes64Bits.exists_natCast {z : Int} (hz : Takes64Bits z) (hlarge : ¬ fitsInt64 z) :
    ∃ n : Nat, z = n ∧ 9223372036854775808 ≤ n ∧ n < nat64Bound := by
  simp only [fitsInt64_iff, Takes64Bits] at hz hlarge
  exact ⟨z.toNat, by omega, by omega, by simp only [nat64Bound]; omega⟩

/-- The value is the integer exactly if the condition holds, and it is at most 1024 away. -/
def Approximates (x : Option Rat) (z : Int) (exact : Prop) : Prop :=
  ∃ k : Int, x = some (k : Rat) ∧ (k - z).natAbs ≤ 1024 ∧ (k = z ↔ exact)

theorem Approximates.of_exact {z : Int} {exact : Prop} (h : exact) :
    Approximates (some (z : Rat)) z exact :=
  ⟨z, rfl, by simp, by simp [h]⟩

/-- Beyond the integers with a sign, the nearest double is one of the multiples of 2048. -/
theorem Binary64.approximates_ofInt {z : Int} (hz : Takes64Bits z) (hlarge : ¬ fitsInt64 z) :
    Approximates (ofInt z).toRat? z (2048 ∣ z) := by
  obtain ⟨n, rfl, hlow, hhigh⟩ := hz.exists_natCast hlarge
  have hround : 2048 * roundHalfEven n 2048 = n ↔ 2048 ∣ n :=
    mul_roundHalfEven_eq_iff (by decide)
  have hbounds := @roundHalfEven_bounds n 2048 (by decide)
  refine ⟨(2048 * roundHalfEven n 2048 : Nat), toRat?_ofNat hlow hhigh, by omega, ?_⟩
  rw [Int.ofNat_inj, hround]
  omega

/-- An integer as a number of a document or as a text of its digits. -/
inductive WrittenInt where
  | number (z : Int)
  | digits (z : Int)

namespace WrittenInt

def value : WrittenInt → Int
  | number z => z
  | digits z => z

def toJson : WrittenInt → Json
  | number z => .int z
  | digits z => .string (Text.intText z)

/-- The number that is read of the integer. -/
def read : WrittenInt → Number
  | number z => .int z
  | digits z => if fitsInt64 z then .int z else .float (.ofInt z)

def scalar (w : WrittenInt) : Scalar := .number w.read

variable {w : WrittenInt}

theorem read_of_fitsInt64 (h : fitsInt64 w.value = true) : w.read = .int w.value := by
  cases w with
  | number z => rfl
  | digits z => exact if_pos h

section Spellings

variable {ws ws' : List WrittenInt} (hsame : ws'.map value = ws.map value)

include hsame

theorem forall_value_of_map_eq {p : Int → Prop} (h : ∀ w ∈ ws, p w.value) : ∀ w ∈ ws', p w.value :=
  List.forall_mem_map.1 (hsame ▸ List.forall_mem_map.2 h)

/-- Integers that fit 64 bits with a sign are read alike in both spellings. -/
theorem map_scalar_eq (h : ∀ w ∈ ws, fitsInt64 w.value = true) :
    ws'.map scalar = ws.map scalar := by
  have hread {ws : List WrittenInt} (h : ∀ w ∈ ws, fitsInt64 w.value = true) :
      ws.map scalar = (ws.map value).map fun z => .number (.int z) := by
    rw [List.map_map]
    exact List.map_congr_left fun w hw => congrArg Scalar.number (read_of_fitsInt64 (h w hw))
  have h' : ∀ w ∈ ws', fitsInt64 w.value = true :=
    forall_value_of_map_eq (p := fun z => fitsInt64 z = true) hsame h
  rw [hread h, hread h', hsame]

end Spellings

/-- What is read is the integer itself, unless digits are a double beside it. -/
theorem approximates_read (hw : Takes64Bits w.value) :
    Approximates w.read.toRat? w.value
      (w = .number w.value ∨ fitsInt64 w.value = true ∨ 2048 ∣ w.value) := by
  by_cases hfits : fitsInt64 w.value = true
  · rw [read_of_fitsInt64 hfits]
    exact Approximates.of_exact (Or.inr (Or.inl hfits))
  · cases w with
    | number z => exact Approximates.of_exact (Or.inl rfl)
    | digits z =>
      obtain ⟨k, hk, hnear, hexact⟩ := Binary64.approximates_ofInt hw hfits
      simp only [value] at hk hnear hexact hfits
      refine ⟨k, ?_, hnear, ?_⟩
      · simpa [read, hfits, Number.toRat?] using hk
      · simp [value, hfits, hexact]

end WrittenInt

theorem Number.ofText?_intText {z : Int} (hz : Takes64Bits z) :
    ofText? (Text.intText z) = some (WrittenInt.digits z).read := by
  rw [ofText?, Text.trim_intText, Text.toList_intText, Text.readInt?_intDigits, WrittenInt.read]
  cases hfits : fitsInt64 z with
  | true => simp [Option.filter_some, hfits]
  | false =>
    obtain ⟨n, rfl, -, hhigh⟩ := hz.exists_natCast (by simp [hfits])
    have hdouble : Binary64.ofText? (Text.intText n) = some (.ofInt n) :=
      Binary64.ofText?_natText hhigh
    have hfinite : (Binary64.ofInt n).isFinite = true := Binary64.isFinite_ofInt hhigh
    simp [Option.filter_some, hfits, hdouble, hfinite]

/-- Digits are read on the way to a number of an attribute. -/
theorem Scalar.ofNumber_toJson {w : WrittenInt} (hw : Takes64Bits w.value) :
    ofNumber w.toJson = .ok w.scalar := by
  cases w with
  | number z => rfl
  | digits z =>
    have hread : Number.ofText? (Text.intText z) = some (WrittenInt.digits z).read :=
      Number.ofText?_intText hw
    simp only [WrittenInt.toJson, ofNumber, hread, WrittenInt.scalar]

namespace Attribute

variable {a : Attribute} {dates : DateContext} {w : WrittenInt}

/-- Numeric attributes take every integer of 64 bits. -/
theorem coerce_toJson (ha : a.scalarKind = .number) (hw : Takes64Bits w.value) :
    a.coerce dates w.toJson = .ok w.scalar := by
  have hread := Scalar.ofNumber_toJson hw
  have hreference : Scalar.ofReference .number w.toJson = .ok w.scalar := by
    cases w <;> exact hread
  cases a with
  | number | money => exact hread
  | choice options | choices options =>
    cases hd : discriminantOf options with
    | string => simp [scalarKind, hd, Discriminant.scalarKind] at ha
    | number => simpa only [coerce, hd, coerce.ofDiscriminant] using hread
  | lookup _ reference | id reference =>
    cases reference with
    | number => exact hreference
    | objectId | string => cases ha
  | date format => cases format <;> cases ha
  | string | boolean => cases ha

theorem coerceAll_toJson {ws : List WrittenInt} (ha : a.scalarKind = .number)
    (hws : ∀ w ∈ ws, Takes64Bits w.value) :
    a.coerceAll dates (ws.map WrittenInt.toJson) = .ok (ws.map WrittenInt.scalar) := by
  induction ws with
  | nil => rfl
  | cons w ws ih =>
    rw [List.forall_mem_cons] at hws
    simp only [List.map_cons, coerceAll, coerce_toJson ha hws.1, ih hws.2, Results.ok_bind]
    rfl

end Attribute
end RecordFilter
