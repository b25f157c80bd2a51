import RecordFilter.Plan.Target
import RecordFilter.Proofs.Plan.ConditionTests
import RecordFilter.Proofs.Sql.WindowBounds
/-!
# Windows that clauses select

The window of a date operator becomes a clause by its bounds or, if it ends with a day that the
operator includes, by the last value of that day. A column of dates is compared with dates, to which
the bounds are rounded up. Either way the clause selects what the window contains; only a day of a
column of instants ends with its last millisecond, and what lies behind that is lost.

## Main statements

* `ConditionInput.truth_of_dateTest_iff` — when the clause of a date operator is true.
* `ConditionInput.clause_selects_window` — the dates and the instants that it selects.
-/
namespace RecordFilter

/-- Operators whose window is compared with the last value in it. -/
def DateOperator.includesEnd : DateOperator → Bool
  | .day .on => true
  | .day .onOrBefore => true
  | _ => false

namespace ConditionInput

variable {i : ConditionInput} {o : DateOperator} {test : Test} {q : Clause} {w : Window}
  {d : Dialect} {same : Char → Char → Bool} {row : Row}

/-- The test of a date operator asks for its window. -/
theorem dateTest_of_window (hw : i.dates.window o i.value = .ok w) :
    i.dateTest o = .ok (if o.includesEnd then .wholeDays w else .window w) := by
  unfold dateTest
  split <;> simp [hw, DateOperator.includesEnd, bind, Except.bind, pure, Except.pure]

/-- Such a window ends where a day does. -/
theorem isWhole_finish (ho : o.includesEnd = true) (hw : i.dates.window o i.value = .ok w) :
    ∀ b ∈ w.finish?, Moment.IsWhole b := by
  have hcalendar : ∀ direction unit, o ≠ .rolling direction unit := by
    rintro direction unit rfl
    cases ho
  intro b hb
  exact DateContext.boundedBy_of_window (fun _ _ => DateContext.isWhole_of_midnight) hcalendar hw b
    (by simp_all)

/-- The clause of a date operator is true of a time within the window; a window that is compared
with the last value in it is right about whole milliseconds. -/
theorem truth_of_dateTest_iff {anyCase dateOnly : Bool} {column : Column} {s : Scalar} {t : Instant}
    (hw : i.dates.window o i.value = .ok w) (htest : i.dateTest o = .ok test)
    (hq : Clause.ofTest anyCase dateOnly column test = .ok q)
    (hrow : row column = .value (Clause.value s)) (hk : s.kind = timeKind dateOnly)
    (hs : s.instant? = some t) (ht : o.includesEnd = false ∨ t.IsWhole) :
    q.truth same row = some true ↔ w.Contains t := by
  rw [dateTest_of_window hw, Except.ok.injEq] at htest
  cases ho : o.includesEnd with
  | false =>
    rw [ho, if_neg Bool.false_ne_true] at htest
    subst htest
    exact Clause.truth_window_iff hrow hk hs hq
  | true =>
    rw [ho, if_pos rfl] at htest
    subst htest
    have hwhole := ht.resolve_left (by simp [ho])
    exact Clause.truth_wholeDays_iff hrow hk hs hwhole (isWhole_finish ho hw) hq

/-- The clause of a date operator selects the dates whose starts in UTC the window contains, and the
instants that it contains: all of them unless the window is compared with the last value in it, and
the whole milliseconds in any case. -/
theorem clause_selects_window (ho : i.operator = .date o) (htest : i.test = .ok (some test))
    (hq : (Target.relational d).ofTest i.type.isDateOnly i.field test = .ok q) :
    ∃ w, i.window = .ok w ∧
      (i.type.isDateOnly = true → ∀ row day, row i.field = .value (.date day) →
        (q.selects same row = true ↔ w.Contains (.midnight day))) ∧
      (i.type.isDateOnly = false → ∀ row t, row i.field = .value (.timestamp t) →
        (o ≠ .day .on ∧ o ≠ .day .onOrBefore) ∨ t.IsWhole →
          (q.selects same row = true ↔ w.Contains t)) := by
  have hdate : i.dateTest o = .ok test := by
    simp only [ConditionInput.test, ho, Results.map_eq_ok, Option.some.injEq] at htest
    obtain ⟨_, hdate, rfl⟩ := htest
    exact hdate
  obtain ⟨w, hw, -⟩ := window_of_dateTest hdate
  have hwindow : i.window = .ok w := by
    rw [window, ho]
    exact hw
  refine ⟨w, hwindow, fun honly row day hrow => ?_, fun honly row t hrow ht => ?_⟩
  · rw [honly] at hq
    simpa [Clause.selects] using truth_of_dateTest_iff hw hdate hq (s := .date day) hrow rfl rfl
      (Or.inr (Moment.isWhole_midnight day))
  · rw [honly] at hq
    have hend : o.includesEnd = false ∨ t.IsWhole := by
      refine ht.imp_left ?_
      rintro ⟨hon, hbefore⟩
      cases o with
      | day side => cases side <;> simp_all [DateOperator.includesEnd]
      | _ => rfl
    simpa [Clause.selects] using truth_of_dateTest_iff hw hdate hq (s := .timestamp t) hrow rfl rfl
      hend

/-! ### A rolling window on dates -/

/-- What is due within a day from eight in the evening on, on a column of dates. -/
def dueWithinDay : ConditionInput where
  field := ⟨none, "due"⟩
  type := .date .date
  operator := .date (.rolling .next .days)
  value := .int 1
  dates := ⟨⟨1736971200, 500000⟩, .utc, .default⟩

/-- The bounds are rounded up to the next dates. -/
def dueTomorrow : Clause :=
  .and [.compare ⟨none, "due"⟩ .gte (.date ⟨20104⟩), .compare ⟨none, "due"⟩ .lt (.date ⟨20105⟩)]

/-- The next date is due within the day, and today and the one after the next are not. -/
theorem dueWithinDay_selects_dueTomorrow :
    ∃ w, dueWithinDay.window = .ok w ∧
      (Target.relational .sqlite).ofTest true dueWithinDay.field (.window w) = .ok dueTomorrow ∧
      ∀ day, dueTomorrow.selects (· == ·) (fun _ => .value (.date day)) = true ↔
        w.Contains (.midnight day) := by
  obtain ⟨w, hw, hdates, -⟩ := @clause_selects_window dueWithinDay _ _ dueTomorrow .sqlite
    (· == ·) rfl rfl rfl
  cases hw
  exact ⟨_, rfl, rfl, fun day => hdates rfl _ day rfl⟩

end ConditionInput
end RecordFilter
