import RecordFilter.Calendar.ZoneTable
import RecordFilter.Proofs.Filter.TreeFolds
import RecordFilter.Proofs.Plan.Judgements
import RecordFilter.Proofs.Sql.ColumnRanges
/-!
# The same verdict for documents and for rows

A filter has a predicate for documents exactly if it has one for rows, and it is refused for the
same reason, but for one case: a rolling window on a field of dates may reach behind the start of
the last date of the calendar, where only rows cannot be asked.

## Main definitions

* `Compiler.verdict` — whether the plan of a filter has a predicate, or why there is none.
* `Condition.Overruns` — conditions with such a window.

## Main statements

* `Compiler.keeps_eq` — targets that accept the same tests keep the same conditions.
* `Compiler.verdicts_agree` — documents and rows.
-/
namespace RecordFilter

namespace Condition

/-- A rolling condition on a field of dates whose window has a bound behind the start of the last
date of the calendar. -/
structure Overruns (store : Store) (schema : Schema) (dates : DateContext) (c : Condition) :
    Prop where
  ofDates : c.attribute? store schema = some (.date .date)
  window : ∃ direction unit w, c.operator = .date (.rolling direction unit) ∧
    (dates.forFormat .date).window (.rolling direction unit) c.value = .ok w ∧
    ∃ b ∈ w.start?.toList ++ w.finish?.toList, Moment.midnight ⟨Date.lastDay⟩ < b

/-- Why such a condition is refused: a date is out of range. -/
def overrun (c : Condition) : FilterError := .invalidValue c.operator (.outOfRange .beyondCalendar)

theorem message_overrun (c : Condition) :
    c.overrun.message =
      "Invalid value for operator '" ++ c.operator.key ++ "': " ++ "date out of range" :=
  rfl

variable {store : Store} {schema : Schema} {dates : DateContext} {c : Condition} {a : Attribute}
  {t : Test}

theorem operator_eq_of_resolve {o : Operator} {d : DateOperator} {v : Json}
    (h : o.resolve v = .date d) : o = .date d := by
  unfold Operator.resolve at h
  split at h
  · cases h
  · exact h

theorem Overruns.resolve_eq (h : c.Overruns store schema dates) :
    c.operator.resolve c.value = c.operator := by
  obtain ⟨direction, unit, w, ho, -⟩ := h.window
  rw [ho]
  rfl

/-- Such a condition asks for a window that reaches behind the start of the last date. -/
theorem Overruns.exists_window (h : c.Overruns store schema dates) :
    ∃ w, c.test? dates (.date .date) = some (.window w) ∧
      (∃ direction unit, (c.input dates (.date .date)).dates.window (.rolling direction unit)
        c.value = .ok w) ∧
      ¬ w.BoundedBy fun b => ¬ Moment.lastMidnight < b := by
  obtain ⟨direction, unit, w, ho, hw, b, hb, hlast⟩ := h.window
  have hresolve : c.operator.resolve c.value = .date (.rolling direction unit) :=
    h.resolve_eq.trans ho
  refine ⟨w, test?_eq_some_iff.2 ⟨?_, ?_⟩, ⟨direction, unit, hw⟩, fun hall => hall b hb hlast⟩
  · rw [hresolve]
    rfl
  · have hoperator : (c.input dates (.date .date)).operator = .date (.rolling direction unit) :=
      hresolve
    have hwindow : (c.input dates (.date .date)).dates.window (.rolling direction unit)
        (c.input dates (.date .date)).value = .ok w := hw
    simp only [ConditionInput.test, hoperator, ConditionInput.dateTest, hwindow]
    rfl

/-- The test of any other condition has a clause. -/
theorem exists_ofTest (hz : dates.zone.IsOrdered) (hnear : dates.zone.IsNear)
    (hnow : dates.now.inCalendar = true) (ha : c.attribute? store schema = some a)
    (ht : c.test? dates a = some t) (hover : ¬ c.Overruns store schema dates) (anyCase : Bool)
    (column : Column) : ∃ q, Clause.ofTest anyCase a.isDateOnly column t = .ok q := by
  obtain ⟨-, htest⟩ := test?_eq_some_iff.1 ht
  obtain ⟨hz', hnear', hutc⟩ := zone_input (c := c) (a := a) hz hnear
  rcases ConditionInput.window?_eq_none_or_dateTest htest with hnone | ⟨o, ho, hdate⟩
  · exact Clause.exists_ofTest_of_window?_eq_none hnone
  · cases o with
    | rolling direction unit =>
      simp only [ConditionInput.dateTest, Results.bind_eq_ok, Results.pure_eq_ok] at hdate
      obtain ⟨w, hw, rfl⟩ := hdate
      refine Clause.exists_ofTest_of_rolling ((now_input dates a c).symm ▸ hnow) hw fun honly => ?_
      obtain rfl : a = .date .date := by
        cases a <;> simp_all [Attribute.isDateOnly, Attribute.dateFormat?]
      intro b hb hlast
      exact hover ⟨ha, direction, unit, w, operator_eq_of_resolve ho, hw, b, hb, hlast⟩
    | _ => exact Clause.exists_ofTest_of_calendar hz' hnear' hutc (by simp) hdate

end Condition

namespace Compiler

variable {P Q : Type} {c : Compiler P} {c' : Compiler Q} {dates : DateContext} {schema : Schema}
  {condition : Condition} {filter : Filter}

/-! ## Verdicts -/

/-- Whether the plan of a filter has a predicate, or why there is no plan. -/
def verdict [ZoneSource] (c : Compiler P) (schema : Schema) (filter : Filter) :
    Except FilterError Bool :=
  (c.plan schema filter).map fun p => p.predicate.isSome

/-- Whether a condition is kept, or why it is refused. -/
def keeps (c : Compiler P) (dates : DateContext) (schema : Schema) (condition : Condition) :
    Except FilterError Bool :=
  (c.outcome dates schema condition).map fun o => o.predicate?.isSome

theorem any_isSome (outcomes : List (Outcome P)) :
    (!(outcomes.filterMap Outcome.predicate?).isEmpty) =
      (outcomes.map fun o => o.predicate?.isSome).any id := by
  induction outcomes with
  | nil => rfl
  | cons o rest ih => cases h : o.predicate? <;> simp_all

/-- The verdict on a filter comes from those on its conditions, one after the other. -/
theorem verdict_eq [ZoneSource] (hdates : c.dates = .ok dates) :
    c.verdict schema filter =
      (Tree.traverseList (c.keeps dates schema) filter.toList).map fun kept => kept.any id := by
  have hkeeps : c.keeps dates schema =
      fun condition => (c.outcome dates schema condition).map fun o => o.predicate?.isSome := rfl
  rw [hkeeps, Tree.traverseList_map, ← Tree.map_toList_traverse]
  simp only [verdict, plan, hdates, bind, Except.bind]
  cases filter.traverse (c.outcome dates schema) with
  | error e => rfl
  | ok outcomes =>
    simp only [Except.map, pure, Except.pure, planOf, Tree.isSome_combine, any_isSome]

/-! ## Targets that accept the same tests -/

/-- The attribute of a condition does not depend on the target. -/
theorem type_locate_eq (hstore : c.store = c'.store) :
    (c.locate schema condition).map Located.type =
      (c'.locate schema condition).map Located.type := by
  unfold locate
  rw [hstore]
  split
  · rfl
  · split
    · rfl
    · split <;> rfl
    · rfl

/-- Targets that have predicates for the test of a condition keep or refuse it alike. -/
theorem keeps_eq (hstore : c.store = c'.store)
    (htest : ∀ a t, condition.attribute? c.store schema = some a →
      condition.test? dates a = some t → ∀ field field',
        (∃ q, c.target.ofTest a.isDateOnly field t = .ok q) ∧
          ∃ q, c'.target.ofTest a.isDateOnly field' t = .ok q) :
    c.keeps dates schema condition = c'.keeps dates schema condition := by
  have htype : (c.locate schema condition).map Located.type =
      (c'.locate schema condition).map Located.type := type_locate_eq hstore
  simp only [keeps, outcome, bind, Except.bind]
  cases hfound : c.locate schema condition with
  | error e => cases hfound' : c'.locate schema condition <;> simp_all [Except.map]
  | ok found =>
    cases hfound' : c'.locate schema condition with
    | error e' => simp_all [Except.map]
    | ok found' =>
      have hsame : found.type = found'.type := by
        rw [hfound, hfound'] at htype
        exact Except.ok.inj htype
      have hattribute := type_of_locate hfound
      cases ha : condition.attribute? c.store schema with
      | none =>
        simp only [onLocated, ← hsame, hattribute, ha]
        rfl
      | some a =>
        simp only [onLocated, ← hsame, hattribute, ha, onAttribute_eq]
        cases hjudge : condition.judge dates a with
        | error e => rfl
        | ok judged =>
          cases judged with
          | inl why => rfl
          | inr t =>
            obtain ⟨⟨q, hq⟩, q', hq'⟩ :=
              htest a t ha (Condition.judge_eq_test_iff.1 hjudge) found.field found'.field
            simp [Except.bind, ofJudgement, hq, hq', Except.map, Outcome.predicate?]

/-! ## Documents and rows -/

variable {store : Store} {now : Instant} {timezone : String} {settings : CalendarSettings}
  {d : Dialect}

/-- A condition whose window reaches behind the last date is kept for documents. -/
theorem outcome_document_of_overruns (h : condition.Overruns store schema dates) :
    ∃ q r, (Compiler.mk .document store now timezone settings).outcome dates schema condition =
      .ok (.kept q r) := by
  obtain ⟨w, ht, -, -⟩ := h.exists_window
  obtain ⟨found, hfound⟩ := exists_locate (c := .mk .document store now timezone settings) h.ofDates
  exact ⟨_, _, outcome_of_test? hfound h.ofDates ht⟩

/-- It is refused for rows. -/
theorem outcome_relational_of_overruns (hnow : dates.now.inCalendar = true)
    (h : condition.Overruns store schema dates) :
    (Compiler.mk (.relational d) store now timezone settings).outcome dates schema condition =
      .error condition.overrun := by
  obtain ⟨w, ht, ⟨direction, unit, hw⟩, hlast⟩ := h.exists_window
  obtain ⟨found, hfound⟩ :=
    exists_locate (c := .mk (.relational d) store now timezone settings) h.ofDates
  have hrefused : (Target.relational d).ofTest (Attribute.isDateOnly (.date .date)) found.field
      (.window w) = .error (.outOfRange .beyondCalendar) :=
    Clause.ofTest_rolling_eq_error (i := condition.input dates (.date .date)) d.hasILike hnow hw
      hlast
  rw [outcome_of_test? hfound h.ofDates ht, h.resolve_eq]
  simp only [ofJudgement, hrefused, Condition.overrun]

/-- Any other condition is kept, dropped or refused alike. -/
theorem keeps_document_eq_relational (hz : dates.zone.IsOrdered) (hnear : dates.zone.IsNear)
    (hnow : dates.now.inCalendar = true) (h : ¬ condition.Overruns store schema dates) :
    (Compiler.mk .document store now timezone settings).keeps dates schema condition =
      (Compiler.mk (.relational d) store now timezone settings).keeps dates schema condition :=
  keeps_eq rfl fun _ _ ha ht _ column =>
    ⟨⟨_, rfl⟩, Condition.exists_ofTest hz hnear hnow ha ht h d.hasILike column⟩

theorem exists_outcome_of_keeps {kept : Bool}
    (h : c.keeps dates schema condition = .ok kept) :
    ∃ o, c.outcome dates schema condition = .ok o := by
  obtain ⟨o, ho, -⟩ := Results.exceptMap_eq_ok.1 h
  exact ⟨o, ho⟩

/-- A filter has a predicate for documents and for rows, or for neither, or is refused for both with
the same fault, unless it has a condition whose window reaches behind the last date: such a one is
kept for documents and refused for rows, and where no condition before it is refused, so is the
filter. -/
theorem verdicts_agree [ZoneSource] (store : Store) {now : Instant} (timezone : String)
    (settings : CalendarSettings) (d : Dialect) (schema : Schema) (filter : Filter)
    (hnow : now.inCalendar = true)
    (hzones : ∀ zone, Zone.ofName? timezone = some zone → zone.IsOrdered ∧ zone.IsNear) :
    (∀ zone condition, condition.Overruns store schema ⟨now, zone, settings⟩ →
      (∃ q r, (Compiler.mk .document store now timezone settings).outcome ⟨now, zone, settings⟩
        schema condition = .ok (.kept q r)) ∧
      (Compiler.mk (.relational d) store now timezone settings).outcome ⟨now, zone, settings⟩
        schema condition = .error condition.overrun) ∧
    ((Compiler.mk .document store now timezone settings).verdict schema filter =
        (Compiler.mk (.relational d) store now timezone settings).verdict schema filter ∨
      ∃ zone before condition after, Zone.ofName? timezone = some zone ∧
        filter.toList = before ++ condition :: after ∧
        condition.Overruns store schema ⟨now, zone, settings⟩ ∧
        (∀ earlier ∈ before, ∃ o, (Compiler.mk (.relational d) store now timezone settings).outcome
          ⟨now, zone, settings⟩ schema earlier = .ok o) ∧
        (Compiler.mk (.relational d) store now timezone settings).verdict schema filter =
          .error condition.overrun) := by
  refine ⟨fun zone condition h => ⟨outcome_document_of_overruns h,
    outcome_relational_of_overruns hnow h⟩, ?_⟩
  cases hzone : Zone.ofName? timezone with
  | none =>
    left
    simp [verdict, plan, dates, hzone, bind, Except.bind, Except.map]
  | some zone =>
    have hdates {P : Type} (target : Target P) :
        (Compiler.mk target store now timezone settings).dates = .ok ⟨now, zone, settings⟩ := by
      simp [dates, hzone]
    rw [verdict_eq (hdates .document), verdict_eq (hdates (.relational d))]
    obtain ⟨hz, hnear⟩ := hzones zone hzone
    rcases Tree.traverseList_eq_or
        ((Compiler.mk .document store now timezone settings).keeps ⟨now, zone, settings⟩ schema)
        ((Compiler.mk (.relational d) store now timezone settings).keeps ⟨now, zone, settings⟩
          schema) filter.toList with
      heq | ⟨before, condition, after, hlist, hbefore, hne⟩
    · exact Or.inl (by rw [heq])
    · right
      have hover : condition.Overruns store schema ⟨now, zone, settings⟩ := by
        by_contra hover
        exact hne (keeps_document_eq_relational hz hnear hnow hover)
      have hkeeps : (Compiler.mk (.relational d) store now timezone settings).keeps
          ⟨now, zone, settings⟩ schema condition = .error condition.overrun := by
        rw [keeps, outcome_relational_of_overruns hnow hover]
        rfl
      refine ⟨zone, before, condition, after, rfl, hlist, hover, fun earlier hearlier => ?_, ?_⟩
      · obtain ⟨-, kept, hkept⟩ := hbefore earlier hearlier
        exact exists_outcome_of_keeps hkept
      · rw [hlist, Tree.traverseList_eq_error (fun x hx => (hbefore x hx).2) hkeeps]
        rfl

/-- Memberships by the date on which they end. -/
def memberships : Schema where
  logicalName := "membership"
  attributes := [("ends", .date .date)]
  idAttribute := "ends"
  primaryAttribute := "ends"

/-- Memberships that end within an hour. -/
def endsSoon : Condition := ⟨"ends", .date (.rolling .next .hours), .int 1, none⟩

/-- At the start of the last date, documents can be asked for the hour ahead and rows cannot. -/
theorem endsSoon_verdicts :
    Moment.lastMidnight.inCalendar = true ∧
      (Compiler.mk .document ⟨[]⟩ .lastMidnight "UTC" .default).verdict memberships
        (.node .and [endsSoon] []) = .ok true ∧
      (Compiler.mk (.relational .sqlite) ⟨[]⟩ .lastMidnight "UTC" .default).verdict memberships
        (.node .and [endsSoon] []) = .error endsSoon.overrun ∧
      endsSoon.overrun.message =
        "Invalid value for operator 'next-x-hours': date out of range" := by
  have hnow : Moment.lastMidnight.inCalendar = true := by decide
  have hzone : Zone.ofName? "UTC" = some .utc := rfl
  have hover : endsSoon.Overruns ⟨[]⟩ memberships ⟨.lastMidnight, .utc, .default⟩ := by
    refine ⟨rfl, .next, .hours, .between .lastMidnight ⟨Moment.lastMidnight.second + 3600, 0⟩,
      rfl, rfl, ⟨Moment.lastMidnight.second + 3600, 0⟩, ?_, by decide⟩
    simp [Window.start?, Window.finish?]
  obtain ⟨⟨q, r, hkept⟩, hrefused⟩ :=
    (verdicts_agree ⟨[]⟩ "UTC" .default .sqlite memberships (.node .and [endsSoon] []) hnow
      fun zone h => Option.some.inj (hzone.symm.trans h) ▸ ⟨rfl, Zone.isNear_utc⟩).1 .utc endsSoon
      hover
  have hdates {P : Type} (target : Target P) :
      (Compiler.mk target ⟨[]⟩ .lastMidnight "UTC" .default).dates =
        .ok ⟨.lastMidnight, .utc, .default⟩ := by
    simp [dates, hzone]
  rw [verdict_eq (hdates .document), verdict_eq (hdates (.relational .sqlite))]
  simp only [Tree.toList_node, Tree.listOfAll_nil, List.append_nil, Tree.traverseList, keeps, hkept,
    hrefused]
  exact ⟨hnow, rfl, rfl, Condition.message_overrun endsSoon⟩

end Compiler
end RecordFilter
