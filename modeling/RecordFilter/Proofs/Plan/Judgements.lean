import RecordFilter.Proofs.Plan.ConditionTests
/-!
# What is decided without a database

Most of what becomes of a condition is decided before its predicate is built: whether it is refused
or dropped, and which test it asks. A target builds the predicate of the test, and may still refuse
it.

## Main definitions

* `Condition.judge` — the part of compilation that does not depend on the target.

## Main statements

* `Compiler.onAttribute_eq` — compilation as a judgement followed by the target.
* `Condition.judge_eq_test_iff` — the test of a judgement is the test of the condition.
-/
namespace RecordFilter

/-! ## Lists -/

theorem Attribute.isNonemptyArray_of_coerceList {a : Attribute} {dates : DateContext} {v : Json}
    {ss : List Scalar} (h : a.coerceList dates v = .ok ss) : Compiler.isNonemptyArray v = true := by
  unfold coerceList at h
  split at h
  · rfl
  · cases h

/-- An operator that needs a list asks a test of a list only. -/
theorem ConditionInput.isNonemptyArray_of_test {i : ConditionInput} {t : Option Test}
    (hneeds : i.operator.needsList = true) (h : i.test = .ok t) :
    Compiler.isNonemptyArray i.value = true := by
  cases hop : i.operator with
  | membership negated =>
    simp only [test, hop, Results.map_eq_ok] at h
    obtain ⟨t, h, -⟩ := h
    unfold membershipTest at h
    split at h <;> simp only [Results.bind_eq_ok] at h <;> obtain ⟨ss, hss, -⟩ := h <;>
      exact Attribute.isNonemptyArray_of_coerceList hss
  | _ => simp [hop, Operator.needsList] at hneeds

/-- Only an unknown operator asks no test. -/
theorem ConditionInput.exists_key_of_test {i : ConditionInput} (h : i.test = .ok none) :
    ∃ key, i.operator = .unknown key := by
  unfold test at h
  split at h
  case h_8 key hkey => exact ⟨key, hkey⟩
  all_goals simp [Results.map_eq_ok] at h

/-! ## Judgements -/

namespace Condition

variable {dates : DateContext} {type : Attribute} {c : Condition} {t : Test}

/-- Whether a condition on an attribute is refused or dropped, or else the test that it asks. -/
def judge (dates : DateContext) (type : Attribute) (c : Condition) :
    Except FilterError (Dropped ⊕ Test) :=
  let operator := c.operator.resolve c.value
  match operator with
  | .unknown key => .ok (.inl (.unknownOperator c.displayField key))
  | _ =>
    if operator.needsList && !Compiler.isNonemptyArray c.value then
      .error (.invalidValue operator .emptyList)
    else
      match operator.applicability type with
      | .dropped => .ok (.inl (.notApplicable c.displayField operator type.kind))
      | .refused => .error (.invalidType operator c.displayField type.kind)
      | .allowed =>
        match (c.input dates type).test with
        | .error why => .error (.invalidValue operator why)
        | .ok none => .ok (.inl (.unknownOperator c.displayField operator.key))
        | .ok (some t) => .ok (.inr t)

/-- The test of a judgement is the test of the condition. -/
theorem judge_eq_test_iff : c.judge dates type = .ok (.inr t) ↔ c.test? dates type = some t := by
  have hoperator : (c.input dates type).operator = c.operator.resolve c.value := rfl
  constructor
  · intro h
    unfold judge at h
    dsimp only at h
    split at h
    · cases h
    · split at h
      · cases h
      · split at h
        · cases h
        · cases h
        · next happlies =>
          split at h <;> cases h
          next htest => exact test?_eq_some_iff.2 ⟨happlies, htest⟩
  · intro h
    obtain ⟨happlies, htest⟩ := test?_eq_some_iff.1 h
    have hlist : ((c.operator.resolve c.value).needsList &&
        !Compiler.isNonemptyArray c.value) = false := by
      cases hneeds : (c.operator.resolve c.value).needsList with
      | false => rfl
      | true =>
        have hlist : Compiler.isNonemptyArray c.value = true :=
          ConditionInput.isNonemptyArray_of_test (hoperator ▸ hneeds) htest
        simp [hlist]
    unfold judge
    dsimp only
    split
    · next key hkey => simp [ConditionInput.test, hoperator, hkey] at htest
    · rw [if_neg (by simp [hlist]), happlies, htest]

end Condition

namespace Compiler

variable {P : Type} {c : Compiler P} {dates : DateContext} {schema : Schema} {found : Located}
  {condition : Condition} {type : Attribute} {t : Test}

/-- What a target makes of a judgement. -/
def ofJudgement (c : Compiler P) (found : Located) (operator : Operator) (type : Attribute) :
    Dropped ⊕ Test → Except FilterError (Outcome P)
  | .inl why => .ok (.dropped why)
  | .inr t =>
    match c.target.ofTest type.isDateOnly found.field t with
    | .error why => .error (.invalidValue operator why)
    | .ok p => .ok (.kept p found.relation)

/-- A condition on an attribute is judged first; the target only builds the predicate of its
test. -/
theorem onAttribute_eq :
    c.onAttribute dates found condition type =
      (condition.judge dates type).bind
        (c.ofJudgement found (condition.operator.resolve condition.value) type) := by
  unfold onAttribute Condition.judge
  simp only [transform_input, ConditionInput.ask]
  generalize condition.operator.resolve condition.value = operator
  cases operator with
  | unknown key => rfl
  | _ =>
    dsimp only
    generalize (Operator.needsList _ && !isNonemptyArray condition.value) = lacksList
    cases lacksList with
    | true => rfl
    | false =>
      cases Operator.applicability _ type with
      | dropped => rfl
      | refused => rfl
      | allowed =>
        rcases (condition.input dates type).test with why | (- | t)
        · rfl
        · rfl
        · simp only [Bool.false_eq_true, if_false, Except.bind, ofJudgement, bind]
          cases c.target.ofTest type.isDateOnly found.field t <;> rfl

/-- What becomes of a condition with a test is decided by the target. -/
theorem outcome_of_test? (hfound : c.locate schema condition = .ok found)
    (ha : condition.attribute? c.store schema = some type)
    (ht : condition.test? dates type = some t) :
    c.outcome dates schema condition =
      c.ofJudgement found (condition.operator.resolve condition.value) type (.inr t) := by
  have htype : found.type = some type := (type_of_locate hfound).trans ha
  have hjudge := Condition.judge_eq_test_iff.2 ht
  simp only [outcome, hfound, bind, Except.bind, onLocated, htype, onAttribute_eq, hjudge]

end Compiler
end RecordFilter
