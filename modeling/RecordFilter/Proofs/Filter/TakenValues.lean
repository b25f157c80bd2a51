import RecordFilter.Proofs.Filter.ScalarKinds
/-!
# Values that are taken

Equality takes a value that can be brought to the form of the attribute, and membership takes a list
of such values. The two differ in one place: equality of texts reads its value as the text of a
pattern, which a truth value is not, though a truth value can be stored as a text.

## Main definitions

* `Attribute.Reads` — a value can be brought to the form of an attribute.

## Main statements

* `ConditionInput.equalityTest_eq`, `ConditionInput.membershipTest_eq` — the tests.
* `ConditionInput.exists_test_equality_iff`, `ConditionInput.exists_test_membership_iff` — when
  there are such tests.
-/
namespace RecordFilter

def Json.isBool : Json → Bool
  | .bool _ => true
  | _ => false

namespace Attribute

variable {a : Attribute} {dates : DateContext} {v : Json} {vs : List Json}

/-- The value can be brought to the form of the attribute. -/
def Reads (a : Attribute) (dates : DateContext) (v : Json) : Prop :=
  ∃ s, a.coerce dates v = .ok s

theorem exists_coerceAll_iff :
    (∃ ss, a.coerceAll dates vs = .ok ss) ↔ ∀ v ∈ vs, a.Reads dates v := by
  induction vs with
  | nil => simp [coerceAll]
  | cons v rest ih =>
    rw [List.forall_mem_cons, ← ih]
    simp only [coerceAll, Results.bind_eq_ok, Results.pure_eq_ok, Reads]
    constructor
    · rintro ⟨_, s, hs, ss, hss, rfl⟩
      exact ⟨⟨s, hs⟩, ss, hss⟩
    · rintro ⟨⟨s, hs⟩, ss, hss⟩
      exact ⟨_, s, hs, ss, hss, rfl⟩

/-- A list is read if it is an array, not empty, of values that are read. -/
theorem exists_coerceList_iff : (∃ ss, a.coerceList dates v = .ok ss) ↔
    ∃ w ws, v = .array (w :: ws) ∧ ∀ x ∈ w :: ws, a.Reads dates x := by
  constructor
  · rintro ⟨ss, h⟩
    unfold coerceList at h
    split at h
    · next w ws => exact ⟨w, ws, rfl, exists_coerceAll_iff.1 ⟨ss, h⟩⟩
    · cases h
  · rintro ⟨w, ws, rfl, h⟩
    exact exists_coerceAll_iff.2 h

/-- Null is no value of any attribute. -/
theorem not_reads_null : ¬ a.Reads dates .null := by
  rintro ⟨s, h⟩
  cases a with
  | choice options | choices options =>
    cases hd : discriminantOf options <;>
      simp [coerce, coerce.ofDiscriminant, hd, Scalar.ofNumber, Scalar.ofText] at h
  | _ => cases h

/-- A truth value is stored as a text. -/
theorem reads_bool (ha : a.kind = .string) (hv : v.isBool = true) : a.Reads dates v := by
  cases v with
  | bool b =>
    cases a with
    | string => exact ⟨_, rfl⟩
    | _ => cases ha
  | _ => cases hv

/-- The text of a pattern is a text or a number. -/
theorem exists_patternText_iff :
    (∃ s, patternText v = .ok s) ↔ string.Reads dates v ∧ v.isBool = false := by
  cases v <;> simp [patternText, Reads, coerce, Scalar.ofText, Json.isBool]

end Attribute

namespace ConditionInput

variable {i : ConditionInput} {s : Scalar} {ss : List Scalar} {negated : Bool}

/-- Apart from texts, equality compares with the value that has been read. -/
theorem equalityTest_eq (hstring : i.type.kind ≠ .string) : i.equalityTest negated =
    i.scalar.map fun s =>
      if i.type.kind = .choices then .contains s negated else .equal s negated := by
  cases htype : i.type with
  | string => simp [htype, Attribute.kind] at hstring
  | _ => cases hs : i.scalar <;> simp [equalityTest, htype, hs, Attribute.kind] <;> rfl

theorem equalityTest_eq_of_string (hstring : i.type = .string) :
    i.equalityTest negated = i.text.map fun s => .sameText s negated := by
  cases htext : i.text <;> simp [equalityTest, hstring, htext] <;> rfl

/-- Membership compares with all the values that have been read. -/
theorem membershipTest_eq : i.membershipTest negated = i.scalars.map fun ss =>
    match i.type.kind with
    | .boolean => .flags (Flags.ofScalars ss) negated
    | .choices => .containsAny ss negated
    | _ => .member ss negated := by
  cases htype : i.type <;> cases hss : i.scalars <;>
    simp [membershipTest, htype, hss, Attribute.kind] <;> rfl

/-- Equality takes the values that are read, unless it looks for the text of a truth value. -/
theorem exists_test_equality_iff (ho : i.operator = .equality negated) :
    (∃ t, i.test = .ok (some t)) ↔
      i.type.Reads i.dates i.value ∧ ¬ (i.type.kind = .string ∧ i.value.isBool = true) := by
  have htest : (∃ t, i.test = .ok (some t)) ↔ ∃ t, i.equalityTest negated = .ok t := by
    simp [test, ho, Results.map_eq_ok]
  rw [htest]
  by_cases hkind : i.type.kind = .string
  · have htype : i.type = .string := by
      cases htype : i.type <;> simp_all [Attribute.kind]
    rw [equalityTest_eq_of_string htype, Results.exists_exceptMap_eq_ok, text,
      @Attribute.exists_patternText_iff i.dates, htype]
    simp [Attribute.kind]
  · rw [equalityTest_eq hkind, Results.exists_exceptMap_eq_ok]
    simp [hkind, Attribute.Reads, scalar]

/-- Membership takes the lists that are read. -/
theorem exists_test_membership_iff (ho : i.operator = .membership negated) :
    (∃ t, i.test = .ok (some t)) ↔
      ∃ w ws, i.value = .array (w :: ws) ∧ ∀ x ∈ w :: ws, i.type.Reads i.dates x := by
  have htest : (∃ t, i.test = .ok (some t)) ↔ ∃ t, i.membershipTest negated = .ok t := by
    simp [test, ho, Results.map_eq_ok]
  rw [htest, membershipTest_eq, ← Attribute.exists_coerceList_iff]
  exact Results.exists_exceptMap_eq_ok

end ConditionInput
end RecordFilter
