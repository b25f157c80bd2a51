import RecordFilter.Proofs.Filter.TreeEdits
import RecordFilter.Proofs.Plan.ConditionTests
/-!
# Plans put together

A plan consists of what its conditions come to, each by itself: their predicates joined along the
tree, and their relations in the order of visiting.

## Main definitions

* `Compiler.predicate?` — the predicate of a condition, if it has one.

## Main statements

* `Compiler.plan_eq` — the parts of a plan.
* `Compiler.forall_predicate_of_plan` — what the predicate of a plan inherits from those of tests.
-/
namespace RecordFilter

theorem Outcome.relation?_eq_none {P : Type} {o : Outcome P} (h : o.predicate? = none) :
    o.relation? = none := by
  cases o with
  | dropped why => rfl
  | kept p r => cases h

namespace Compiler

variable {P : Type} {c : Compiler P} {dates : DateContext} {schema : Schema} {filter : Filter}
  {condition : Condition} {p : Plan P}

theorem dates_of_ofName? [ZoneSource] {zone : Zone} (h : Zone.ofName? c.timezone = some zone) :
    c.dates = .ok ⟨c.now, zone, c.settings⟩ := by
  simp only [Compiler.dates, h]

theorem dates_of_plan [ZoneSource] (h : c.plan schema filter = .ok p) :
    ∃ dates, c.dates = .ok dates := by
  simp only [plan, Results.bind_eq_ok] at h
  obtain ⟨dates, hdates, -⟩ := h
  exact ⟨dates, hdates⟩

/-- The predicate of a condition, if it is not refused and asks something. -/
def predicate? (c : Compiler P) (dates : DateContext) (schema : Schema) (condition : Condition) :
    Option P :=
  match c.outcome dates schema condition with
  | .ok o => o.predicate?
  | .error _ => none

/-- A plan joins the predicates of its conditions along the tree and lists their relations. -/
theorem plan_eq [ZoneSource] (hdates : c.dates = .ok dates) :
    c.plan schema filter =
      (Tree.gather (c.outcome dates schema) Outcome.relation? filter.toList).map fun relations =>
        ⟨filter.combine c.target.join (c.predicate? dates schema),
          Relation.distinct relations⟩ := by
  rw [Tree.gather, ← Tree.map_toList_traverse]
  simp only [plan, hdates, bind, Except.bind]
  cases houtcomes : filter.traverse (c.outcome dates schema) with
  | error e => rfl
  | ok outcomes =>
    have hpredicate : outcomes.combine c.target.join Outcome.predicate? =
        filter.combine c.target.join (c.predicate? dates schema) :=
      Tree.combine_of_traverse houtcomes fun _ _ _ ho => by simp only [predicate?, ho]
    simp only [Except.map, pure, Except.pure, planOf, hpredicate]

/-- The predicate of a condition is that of the test that it asks. -/
theorem exists_test_of_predicate? {q : P} (h : c.predicate? dates schema condition = some q) :
    ∃ a t field, condition.test? dates a = some t ∧
      c.target.ofTest a.isDateOnly field t = .ok q := by
  unfold predicate? at h
  split at h
  · next o ho =>
    obtain ⟨found, a, -, -, ⟨why, -, rfl⟩ | ⟨t, q', ht, hq, rfl⟩⟩ := outcome_cases ho
    · cases h
    · cases h
      exact ⟨a, t, found.field, ht, hq⟩
  · cases h

/-- What holds of the predicates of tests, and of two or more joined if it holds of them, holds of
the predicate of a plan. -/
theorem forall_predicate_of_plan [ZoneSource] {good : P → Prop}
    (hjoin : ∀ kind parts, 2 ≤ parts.length → (∀ q ∈ parts, good q) →
      good (c.target.join kind parts))
    (htest : ∀ (condition : Condition) a t field q, condition.test? dates a = some t →
      c.target.ofTest a.isDateOnly field t = .ok q → good q)
    (hdates : c.dates = .ok dates) (h : c.plan schema filter = .ok p) :
    ∀ q ∈ p.predicate, good q := by
  rw [plan_eq hdates, Results.exceptMap_eq_ok] at h
  obtain ⟨relations, -, rfl⟩ := h
  refine Tree.forall_combine hjoin fun condition _ q hq => ?_
  obtain ⟨a, t, field, ht, hq⟩ := exists_test_of_predicate? hq
  exact htest condition a t field q ht hq

end Compiler
end RecordFilter
