import RecordFilter.Calendar.ZoneTable
import RecordFilter.Proofs.Plan.ConditionTests
import RecordFilter.Proofs.Sql.TypedClauses
/-!
# Conditions by the types of columns

Whatever a condition asks, its clause compares the column of its attribute with values of the type
of that column, and asks nothing that such a column has no answer to.

## Main statements

* `Compiler.clause_fits_column` — the clause of a condition.
-/
namespace RecordFilter.Compiler

variable {d : Dialect} {store : Store} {now : Instant} {timezone : String}
  {settings : CalendarSettings} {dates : DateContext} {found : Located} {condition : Condition}
  {type : Option Attribute} {q : Clause} {r : Option Relation}

theorem fitsColumn_of_onLocated
    (h : (Compiler.mk (.relational d) store now timezone settings).onLocated dates found condition =
      .ok (.kept q r)) :
    ∃ a, found.type = some a ∧ q.Each (Clause.FitsColumn found.field a) := by
  unfold onLocated at h
  split at h
  · next a ha =>
    refine ⟨a, ha, ?_⟩
    rcases onAttribute_cases h with ⟨why, -, hdropped⟩ | ⟨t, p, ht, hp, hkept⟩
    · cases hdropped
    · cases hkept
      exact Clause.fitsColumn_ofTest (Condition.fits_of_test? ht) hp
  · cases h

/-- Within the clause of a condition, every clause is about the field of the condition, and asks its
column what the column of such an attribute may be asked. -/
theorem clause_fits_column [ZoneSource]
    (h : (Compiler.mk (.relational d) store now timezone settings).condition condition type =
      .ok (.kept q r)) :
    ∃ a, type = some a ∧ ∀ s ∈ q.subclauses, s.FitsColumn ⟨none, condition.field⟩ a := by
  obtain ⟨dates, -, h⟩ := Results.bind_eq_ok.1 h
  exact fitsColumn_of_onLocated h

/-! ### Due dates -/

def dueToday : Condition := ⟨"due", .date (.calendar .today), .null, none⟩

/-- What is due on the first of January 1970, by a column of dates. -/
def dueOnFirstDay : Clause :=
  .and [.compare ⟨none, "due"⟩ .gte (.date ⟨0⟩), .compare ⟨none, "due"⟩ .lt (.date ⟨1⟩)]

/-- A column of dates is compared with dates. -/
theorem dueToday_fits_column :
    (Compiler.mk (.relational .postgres) ⟨[]⟩ ⟨0, 0⟩ "UTC" .default).condition dueToday
        (some (.date .date)) = .ok (.kept dueOnFirstDay none) ∧
      ∃ a, some (Attribute.date .date) = some a ∧
        ∀ s ∈ dueOnFirstDay.subclauses, s.FitsColumn ⟨none, "due"⟩ a := by
  have hkept : (Compiler.mk (.relational .postgres) ⟨[]⟩ ⟨0, 0⟩ "UTC" .default).condition
      dueToday (some (.date .date)) = .ok (.kept dueOnFirstDay none) := rfl
  exact ⟨hkept, clause_fits_column hkept⟩

end RecordFilter.Compiler
