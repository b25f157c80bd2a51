import RecordFilter.Proofs.Plan.Assembly
import RecordFilter.Proofs.Plan.Judgements
/-!
# Plans read in another way

Where the predicates of one target are those of another under a reading that follows the joins, so
are the plans, and both refuse the same filters for the same faults.

## Main definitions

* `Plan.map`, `Outcome.map` — a reading of the predicate.
* `Target.Reads` — a target whose predicates are readings of those of another.
* `Compiler.retarget` — the same circumstances with another target.

## Main statements

* `Compiler.map_plan` — plans under a reading.
-/
namespace RecordFilter

variable {P Q : Type}

def Plan.map (g : P → Q) (p : Plan P) : Plan Q := ⟨p.predicate.map g, p.relations⟩

namespace Outcome

def map (g : P → Q) : Outcome P → Outcome Q
  | dropped why => dropped why
  | kept p r => kept (g p) r

@[simp] theorem predicate?_map (g : P → Q) (o : Outcome P) :
    (o.map g).predicate? = o.predicate?.map g := by
  cases o <;> rfl

@[simp] theorem relation?_map (g : P → Q) (o : Outcome P) : (o.map g).relation? = o.relation? := by
  cases o <;> rfl

end Outcome

/-- The predicates of the second target are those of the first one, read by the function. -/
structure Target.Reads (T : Target P) (T' : Target Q) (g : P → Q) : Prop where
  qualifier : T'.qualifier = T.qualifier
  handle : T'.handle = T.handle
  ofTest : ∀ dateOnly field t, T'.ofTest dateOnly field t = (T.ofTest dateOnly field t).map g
  join : ∀ kind parts, g (T.join kind parts) = T'.join kind (parts.map g)

namespace Compiler

/-- Another target in the same circumstances. -/
def retarget (c : Compiler P) (T' : Target Q) : Compiler Q :=
  ⟨T', c.store, c.now, c.timezone, c.settings⟩

variable {c : Compiler P} {T' : Target Q} {g : P → Q} {dates : DateContext} {schema : Schema}

theorem locate_of_reads (h : c.target.Reads T' g) (condition : Condition) :
    (c.retarget T').locate schema condition = c.locate schema condition := by
  simp only [locate, retarget, h.qualifier, h.handle]

theorem ofJudgement_of_reads (h : c.target.Reads T' g) (found : Located) (operator : Operator)
    (type : Attribute) (judged : Dropped ⊕ Test) :
    (c.retarget T').ofJudgement found operator type judged =
      (c.ofJudgement found operator type judged).map (Outcome.map g) := by
  cases judged with
  | inl why => rfl
  | inr t =>
    simp only [ofJudgement, retarget, h.ofTest]
    cases c.target.ofTest type.isDateOnly found.field t <;> rfl

/-- What becomes of a condition is read in its predicate. -/
theorem outcome_of_reads (h : c.target.Reads T' g) (condition : Condition) :
    (c.retarget T').outcome dates schema condition =
      (c.outcome dates schema condition).map (Outcome.map g) := by
  simp only [outcome, locate_of_reads h, bind, Except.bind]
  cases c.locate schema condition with
  | error e => rfl
  | ok found =>
    cases htype : found.type with
    | none => simp only [onLocated, htype, Except.map]
    | some type =>
      simp only [onLocated, htype, onAttribute_eq]
      cases condition.judge dates type with
      | error e => rfl
      | ok judged => exact ofJudgement_of_reads h found _ type judged

theorem predicate?_of_reads (h : c.target.Reads T' g) (condition : Condition) :
    (c.retarget T').predicate? dates schema condition =
      (c.predicate? dates schema condition).map g := by
  simp only [predicate?, outcome_of_reads h]
  cases c.outcome dates schema condition with
  | error e => rfl
  | ok o => exact o.predicate?_map g

/-- The relations of conditions do not depend on how predicates are read. -/
theorem gather_of_reads (h : c.target.Reads T' g) (conditions : List Condition) :
    Tree.gather ((c.retarget T').outcome dates schema) Outcome.relation? conditions =
      Tree.gather (c.outcome dates schema) Outcome.relation? conditions := by
  rw [Tree.gather, Tree.gather, funext (outcome_of_reads h), Tree.traverseList_map]
  cases Tree.traverseList (c.outcome dates schema) conditions with
  | error e => rfl
  | ok outcomes =>
    simp only [Except.map, List.filterMap_map, Function.comp_def, Outcome.relation?_map]

/-- A plan is read in its predicate; the relations and the faults are the same. -/
theorem map_plan [ZoneSource] (h : c.target.Reads T' g) (filter : Filter) :
    (c.plan schema filter).map (Plan.map g) = (c.retarget T').plan schema filter := by
  have hcircumstances : (c.retarget T').dates = c.dates := rfl
  cases hdates : c.dates with
  | error e => simp only [plan, hcircumstances, hdates, bind, Except.bind, Except.map]
  | ok dates =>
    rw [plan_eq hdates, plan_eq (hcircumstances.trans hdates), gather_of_reads h,
      funext (predicate?_of_reads h), retarget, ← Tree.map_combine h.join]
    cases Tree.gather (c.outcome dates schema) Outcome.relation? filter.toList <;> rfl

end Compiler
end RecordFilter
