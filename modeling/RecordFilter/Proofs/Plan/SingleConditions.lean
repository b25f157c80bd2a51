import RecordFilter.Proofs.Plan.Assembly
import RecordFilter.Proofs.Plan.Judgements
/-!
# Single conditions

A condition whose operator applies to its attribute is kept with the predicate of its test, or it is
refused for its value. Where the target has a predicate for the test, the value alone decides which.

## Main definitions

* `Condition.Applies` — the operator of a condition applies to an attribute.
* `Compiler.Keeps`, `Compiler.Refuses` — what becomes of such a condition.
* `Compiler.CanAsk` — targets that have a predicate for its test.

## Main statements

* `Compiler.condition_eq_kept_iff` — the predicate of a condition.
* `Compiler.keeps_iff`, `Compiler.refuses_iff` — when a condition is kept, and when it is refused.
-/
namespace RecordFilter

/-- The operator is known and applies to the attribute. -/
structure Condition.Applies (q : Condition) (a : Attribute) : Prop where
  allowed : (q.operator.resolve q.value).applicability a = .allowed
  known : ∀ key, q.operator.resolve q.value ≠ .unknown key

namespace Compiler

variable {P : Type} [ZoneSource] {c : Compiler P} {dates : DateContext} {q : Condition}
  {a : Attribute} {p : P}

/-- The condition has a predicate. -/
def Keeps (c : Compiler P) (q : Condition) (a : Attribute) : Prop :=
  ∃ p, c.condition q (some a) = .ok (.kept p none)

/-- The condition is refused for its value. -/
def Refuses (c : Compiler P) (q : Condition) (a : Attribute) : Prop :=
  ∃ why, c.condition q (some a) = .error (.invalidValue (q.operator.resolve q.value) why)

/-- The target has a predicate for what the condition asks. -/
def CanAsk (c : Compiler P) (dates : DateContext) (q : Condition) (a : Attribute) : Prop :=
  ∀ t, q.test? dates a = some t → ∃ p, c.target.ofTest a.isDateOnly ⟨none, q.field⟩ t = .ok p

/-- A condition on a bare field is judged, and its test is given to the target. -/
theorem condition_eq (hdates : c.dates = .ok dates) :
    c.condition q (some a) = (q.judge dates a).bind
      (c.ofJudgement ⟨⟨none, q.field⟩, some a, none⟩ (q.operator.resolve q.value) a) := by
  rw [condition, hdates, Results.ok_bind, onLocated]
  exact onAttribute_eq

/-- A condition is kept with the predicate of its test. -/
theorem condition_eq_kept_iff (hdates : c.dates = .ok dates) :
    c.condition q (some a) = .ok (.kept p none) ↔ ∃ t, q.test? dates a = some t ∧
      c.target.ofTest a.isDateOnly ⟨none, q.field⟩ t = .ok p := by
  simp only [condition_eq hdates, ← Condition.judge_eq_test_iff]
  cases hjudge : q.judge dates a with
  | error e => simp [Except.bind]
  | ok judged =>
    cases judged with
    | inl why => simp [Except.bind, ofJudgement]
    | inr t =>
      simp only [Except.bind, ofJudgement, Except.ok.injEq, Sum.inr.injEq, exists_eq_left']
      split <;> simp_all

/-- Where an operator applies, a condition that asks no test is refused for its value. -/
theorem refuses_of_test? (hdates : c.dates = .ok dates) (happlies : q.Applies a)
    (h : q.test? dates a = none) : c.Refuses q a := by
  have hinput : (q.input dates a).operator = q.operator.resolve q.value := rfl
  rw [Condition.test?, happlies.allowed] at h
  rw [Refuses, condition_eq hdates]
  unfold Condition.judge
  dsimp only
  split
  · next key hkey => exact absurd hkey (happlies.known key)
  · split
    · exact ⟨_, rfl⟩
    · rw [happlies.allowed]
      cases htest : (q.input dates a).test with
      | error why => exact ⟨why, rfl⟩
      | ok asked =>
        cases asked with
        | none =>
          obtain ⟨key, hkey⟩ := ConditionInput.exists_key_of_test htest
          exact absurd (hinput.symm.trans hkey) (happlies.known key)
        | some t => simp [htest] at h

section Target

variable (hdates : c.dates = .ok dates) (htarget : c.CanAsk dates q a)

include hdates htarget

theorem keeps_iff : c.Keeps q a ↔ ∃ t, q.test? dates a = some t := by
  simp only [Keeps, condition_eq_kept_iff hdates]
  constructor
  · rintro ⟨p, t, ht, -⟩
    exact ⟨t, ht⟩
  · rintro ⟨t, ht⟩
    obtain ⟨p, hp⟩ := htarget t ht
    exact ⟨p, t, ht, hp⟩

theorem refuses_iff (happlies : q.Applies a) : c.Refuses q a ↔ ¬ c.Keeps q a := by
  constructor
  · rintro ⟨why, hrefused⟩ ⟨p, hkept⟩
    rw [hrefused] at hkept
    cases hkept
  · intro h
    rw [keeps_iff hdates htarget, not_exists] at h
    exact refuses_of_test? hdates happlies (Option.eq_none_iff_forall_ne_some.2 h)

end Target

end Compiler
end RecordFilter
