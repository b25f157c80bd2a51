import RecordFilter.Calendar.ZoneTable
import RecordFilter.Proofs.Calendar.MonthStarts
import RecordFilter.Proofs.Filter.LocalRanges
import RecordFilter.Proofs.Match.WrittenWindows
import RecordFilter.Proofs.Plan.SingleConditions
import RecordFilter.Proofs.Sql.ColumnRanges
import RecordFilter.Proofs.Sql.SelectedWindows
/-!
# Ranges between days

A range between two plain dates holds all of both days. On a field of instants it is what the window
from the one date on and the window up to the other date have in common, and wherever the clocks
show a date at the present there is such a range exactly if there are both windows. On a field of
dates it holds the dates whose starts in UTC lie in
both windows.

## Main definitions

* `Condition.between`, `Condition.ofDay` — a range of days, and a side of one.

## Main statements

* `Condition.test?_between_datetime_iff`, `Condition.test?_between_date` — the tests of such ranges.
* `Compiler.range_meets_days` — what ranges select from documents and from rows.
-/
namespace RecordFilter

variable {low high day : String} {first last next d : Date} {w w' : Window} {m : Instant}

/-! ## Windows of a day -/

namespace DateContext

variable {c : DateContext}

theorem midnight_eq_ok_iff : c.midnight d = .ok m ↔ c.zone.midnight d = .ok m := by
  refine ⟨zone_midnight_eq_ok, fun h => ?_⟩
  rw [midnight, h]

theorem dayOf_of_ofText? (h : Date.ofText? day = some d) : c.dayOf (.string day) = .ok d := by
  simp [dayOf, Zone.readDay_of_ofText? h]

theorem window_onOrAfter_iff (h : Date.ofText? day = some d) :
    c.window (.day .onOrAfter) (.string day) = .ok w ↔
      c.HasToday ∧ ∃ start, c.zone.midnight d = .ok start ∧ w = .since start := by
  simp only [window_eq_ok_iff, windowOn, dayOf_of_ofText? h, Results.bind_eq_ok, Results.pure_eq_ok,
    Except.ok.injEq, exists_eq_left', midnight_eq_ok_iff, eq_comm (a := w)]

theorem window_onOrBefore_iff (h : Date.ofText? day = some d) (hnext : d.succ? = some next) :
    c.window (.day .onOrBefore) (.string day) = .ok w ↔
      c.HasToday ∧ ∃ finish, c.zone.midnight next = .ok finish ∧ w = .before finish := by
  have hnext : ValueError.inRange (d.addDays? 1) = .ok next := by
    rw [← Date.succ?, hnext, Results.inRange_some]
  simp only [window_eq_ok_iff, windowOn, dayOf_of_ofText? h, hnext, Results.bind_eq_ok,
    Results.pure_eq_ok, Except.ok.injEq, exists_eq_left', midnight_eq_ok_iff, eq_comm (a := w)]

end DateContext

/-! ## Conditions -/

namespace Condition

variable {q : Condition} {c : DateContext} {t : Test}

/-- The condition, asking for a range between two texts. -/
def between (q : Condition) (low high : String) : Condition :=
  { q with operator := .between, value := .array [.string low, .string high] }

/-- The condition, asking for a side of a day. -/
def ofDay (q : Condition) (side : DaySide) (day : String) : Condition :=
  { q with operator := .date (.day side), value := .string day }

theorem applies_between (format : DateFormat) : (q.between low high).Applies (.date format) :=
  ⟨rfl, fun _ => nofun⟩

theorem applies_ofDay {side : DaySide} (format : DateFormat) :
    (q.ofDay side day).Applies (.date format) :=
  ⟨rfl, fun _ => nofun⟩

theorem test?_ofDay_iff {side : DaySide} :
    (q.ofDay side day).test? c (.date .datetime) = some t ↔
      ((q.ofDay side day).input c (.date .datetime)).dateTest (.day side) = .ok t := by
  simp only [test?_eq_some_iff, (applies_ofDay .datetime).allowed, true_and]
  exact Results.map_eq_ok.trans (by simp)

/-- A side of a day asks a test exactly if its window is found. -/
theorem exists_test?_ofDay_iff {side : DaySide} :
    (∃ t, (q.ofDay side day).test? c (.date .datetime) = some t) ↔
      ∃ w, c.window (.day side) (.string day) = .ok w := by
  simp only [test?_ofDay_iff]
  constructor
  · rintro ⟨t, ht⟩
    obtain ⟨w, hw, -⟩ := ConditionInput.window_of_dateTest ht
    exact ⟨w, hw⟩
  · rintro ⟨w, hw⟩
    exact ⟨_, ConditionInput.dateTest_of_window hw⟩

/-- A range of instants asks for the instants from the start of the one day to the end of the
other. -/
theorem test?_between_datetime_iff (hlow : Date.ofText? low = some first)
    (hhigh : Date.ofText? high = some last) (hnext : last.succ? = some next) :
    (q.between low high).test? c (.date .datetime) = some t ↔ ∃ start finish,
      c.zone.midnight first = .ok start ∧ c.zone.midnight next = .ok finish ∧
      t = .range (.timestamp start) (.exclusive (.timestamp finish)) := by
  have hstart : c.zone.readInstant low = c.zone.midnight first :=
    Zone.readInstant_of_startsAt (Or.inr ⟨first, hlow, rfl⟩) c.zone
  have hday := Zone.readDay_of_ofText? hhigh c.zone
  have hinput : (q.between low high).input c (.date .datetime) =
      ⟨⟨none, q.field⟩, .date .datetime, .between, .array [.string low, .string high], c⟩ := rfl
  rw [test?_eq_some_iff, hinput]
  simp only [(applies_between .datetime).allowed, true_and, ConditionInput.test,
    ConditionInput.range, Attribute.coerceRange, Attribute.coerce, Scalar.ofDate, hstart,
    Attribute.coerceUpper, hhigh, Option.isSome_some, if_true, Attribute.dayEnd, hday,
    Option.bind_some, hnext, Results.bind_eq_ok, Results.pure_eq_ok]
  cases c.zone.midnight first with
  | error why => simp
  | ok start => simp [DateContext.midnight_eq_ok_iff, eq_comm (a := t)]

/-- A range of dates asks for the dates between its bounds. -/
theorem test?_between_date (hlow : Date.ofText? low = some first)
    (hhigh : Date.ofText? high = some last) :
    (q.between low high).test? c (.date .date) =
      some (.range (.date first) (.inclusive (.date last))) := by
  refine test?_eq_some_iff.2 ⟨rfl, ?_⟩
  have hread := Zone.readDay_of_ofText? hlow .utc
  have hread' := Zone.readDay_of_ofText? hhigh .utc
  have hinput : (q.between low high).input c (.date .date) =
      ⟨⟨none, q.field⟩, .date .date, .between, .array [.string low, .string high],
        c.forFormat .date⟩ := rfl
  have hzone : (c.forFormat .date).zone = .utc := rfl
  simp only [hinput, ConditionInput.test, ConditionInput.range, Attribute.coerceRange,
    Attribute.coerce, Scalar.ofDate, hzone, hread, Attribute.coerceUpper, hread', Except.map,
    Results.ok_bind]
  rfl

end Condition

/-! ## Selection -/

/-- The start of a date of the years 1 to 9998, or of the day after them, is kept by databases. -/
theorem Zone.IsNear.isStored_of_midnight {z : Zone} (hnear : z.IsNear) (hz : z.IsOrdered)
    (h : z.midnight d = .ok m) (hfirst : Date.dayNumber ⟨1, 1, 1⟩ ≤ d.day)
    (hlast : d.day ≤ Date.dayNumber ⟨9998, 12, 31⟩ + 1) : m.IsStored := by
  obtain ⟨q, hq, hm, -⟩ := midnight_eq_ok h
  obtain ⟨-, hclock, -, -⟩ := (instant?_eq_some_iff hz).1 hm
  obtain ⟨hmillis, hleap⟩ := isWhole_of_midnight h
  have hoffset := hnear m.second
  have hclock : m.second + z.offsetAt m.second = d.day * 86400 + 900 * q := hclock
  have hdate : m.date.day = m.second / 86400 := rfl
  have h₀ : Date.dayNumber ⟨1, 1, 1⟩ = -719162 := by decide
  have h₁ : Date.dayNumber ⟨9998, 12, 31⟩ = 2932531 := by decide
  have h₂ : Date.dayNumber ⟨0 - 1, 12, 31⟩ = -719529 := by decide
  have h₃ : Date.dayNumber ⟨9999 + 1, 1, 1⟩ = 2932897 := by decide
  simp only [searchSteps] at hq
  have hyears : 0 ≤ m.date.civil.year ∧ m.date.civil.year ≤ 9999 :=
    Date.year_bounds_of_day (by omega) (by omega)
  exact ⟨hmillis, hleap, hyears⟩

section Document

variable {start finish t : Instant} {path : String} {document value : Json}
  {same : Char → Char → Bool}

/-- A match of a range of instants. -/
theorem Match.selects_instants_iff (hstart : start.IsStored) (hfinish : finish.IsStored)
    (hfound : document.at? path = some value) (hv : value.toScalar? = some (.timestamp t)) :
    (ofTest path (.range (.timestamp start) (.exclusive (.timestamp finish)))).selects same
        document = true ↔ start ≤ t ∧ t < finish := by
  have hwindow : ofTest path (.range (.timestamp start) (.exclusive (.timestamp finish))) =
      .field path (windowOperators (.between start finish)) := rfl
  rw [hwindow, Window.selects_iff_of_found hfound hv,
    Window.selects_iff (Window.boundedBy_between.2 ⟨hstart.isProper, hfinish.isProper⟩)
      (Window.boundedBy_between.2 ⟨hstart.2.2, hfinish.2.2⟩),
    Window.toMillis_eq_self (Window.boundedBy_between.2 ⟨hstart.1, hfinish.1⟩)]
  rfl

/-- An operand that is a date counts as its start in UTC. -/
theorem MatchOperator.accepts_compare_date_iff {c : Comparator} (heq : c ≠ .eq) (hne : c ≠ .ne)
    (hd : (Moment.midnight d).IsStored) (hv : value.toScalar? = some (.timestamp t)) :
    (compare c (some (.date d))).accepts same (some value) = true ↔
      c.accepts (t.order (.midnight d)) = true := by
  have hdate : Scalar.IsStored (.date d) := hd
  have hoperand : operandJson (some (.date d)) = operandJson (some (.timestamp (.midnight d))) :=
    Scalar.toOperand_eq hdate
  have haccepts : (compare c (some (.date d))).accepts same (some value) =
      (compare c (some (.timestamp (.midnight d)))).accepts same (some value) := by
    rw [accepts, accepts, hoperand]
  rw [haccepts, accepts_compare_timestamp_iff hv heq hne,
    holdsOf_compare_timestamp_iff hd.isProper hd.2.2.1 hd.2.2.2, hd.toMillis]

/-- A match of a range of dates. -/
theorem Match.selects_dates_iff (hfirst : (Moment.midnight first).IsStored)
    (hlast : (Moment.midnight last).IsStored) (hfound : document.at? path = some value)
    (hv : value.toScalar? = some (.timestamp (.midnight d))) :
    (ofTest path (.range (.date first) (.inclusive (.date last)))).selects same document = true ↔
      first ≤ d ∧ d ≤ last := by
  simp only [ofTest, upperOperator, selects, hfound, List.all_cons, List.all_nil, Bool.and_true,
    Bool.and_eq_true,
    MatchOperator.accepts_compare_date_iff (c := .gte) (by decide) (by decide) hfirst hv,
    MatchOperator.accepts_compare_date_iff (c := .lte) (by decide) (by decide) hlast hv,
    Moment.accepts_gte_order_iff, Moment.accepts_lte_order_iff, Moment.midnight_le_midnight_iff]

end Document

section Row

variable {start finish t : Instant} {column : Column} {row : Row} {same : Char → Char → Bool}

/-- A clause of a range of instants. -/
theorem Clause.selects_instants_iff (hrow : row column = .value (.timestamp t)) :
    (range column (.timestamp start) (.exclusive (.timestamp finish))).selects same row = true ↔
      start ≤ t ∧ t < finish := by
  have hwindow : window column false (.between start finish) =
      .ok (range column (.timestamp start) (.exclusive (.timestamp finish))) := rfl
  simp only [selects, decide_eq_true_eq]
  exact truth_window_iff (s := .timestamp t) hrow rfl rfl hwindow

/-- A clause of a range of dates. -/
theorem Clause.selects_dates_iff (hrow : row column = .value (.date d)) :
    (range column (.date first) (.inclusive (.date last))).selects same row = true ↔
      first ≤ d ∧ d ≤ last := by
  simp [selects, range, truth, hrow, compares, value, SqlValue.compare?,
    Date.accepts_gte_order_iff, Date.accepts_lte_order_iff]

end Row

/-! ## Ranges and their sides -/

namespace Compiler

variable {P : Type} {c : Compiler P} {dates : DateContext} {q : Condition} {side : DaySide}

/-- A range of days on a field of instants is kept where both its windows are found, and refused
where one of its sides is. -/
structure FollowsSides [ZoneSource] (c : Compiler P) (dates : DateContext) (q : Condition)
    (low high : String) : Prop where
  keeps_iff : c.Keeps (q.between low high) (.date .datetime) ↔
    (∃ w, dates.window (.day .onOrAfter) (.string low) = .ok w) ∧
      ∃ w, dates.window (.day .onOrBefore) (.string high) = .ok w
  refuses_iff : c.Refuses (q.between low high) (.date .datetime) ↔
    c.Refuses (q.ofDay .onOrAfter low) (.date .datetime) ∨
      c.Refuses (q.ofDay .onOrBefore high) (.date .datetime)

theorem keeps_ofDay_iff [ZoneSource] (hdates : c.dates = .ok dates)
    (htarget : c.CanAsk dates (q.ofDay side day) (.date .datetime)) :
    c.Keeps (q.ofDay side day) (.date .datetime) ↔
      ∃ w, dates.window (.day side) (.string day) = .ok w :=
  (keeps_iff hdates htarget).trans Condition.exists_test?_ofDay_iff

theorem followsSides [ZoneSource] (hdates : c.dates = .ok dates) (htoday : dates.HasToday)
    (hlow : Date.ofText? low = some first) (hhigh : Date.ofText? high = some last)
    (hnext : last.succ? = some next)
    (hrange : c.CanAsk dates (q.between low high) (.date .datetime))
    (hafter : c.CanAsk dates (q.ofDay .onOrAfter low) (.date .datetime))
    (hbefore : c.CanAsk dates (q.ofDay .onOrBefore high) (.date .datetime)) :
    c.FollowsSides dates q low high := by
  have hkeeps : c.Keeps (q.between low high) (.date .datetime) ↔
      (∃ w, dates.window (.day .onOrAfter) (.string low) = .ok w) ∧
        ∃ w, dates.window (.day .onOrBefore) (.string high) = .ok w := by
    rw [keeps_iff hdates hrange]
    simp only [Condition.test?_between_datetime_iff hlow hhigh hnext,
      DateContext.window_onOrAfter_iff hlow, DateContext.window_onOrBefore_iff hhigh hnext]
    constructor
    · rintro ⟨t, start, finish, hstart, hfinish, -⟩
      exact ⟨⟨_, htoday, start, hstart, rfl⟩, _, htoday, finish, hfinish, rfl⟩
    · rintro ⟨⟨w, -, start, hstart, -⟩, w', -, finish, hfinish, -⟩
      exact ⟨_, start, finish, hstart, hfinish, rfl⟩
  refine ⟨hkeeps, ?_⟩
  rw [refuses_iff hdates hrange (Condition.applies_between .datetime),
    refuses_iff hdates hafter (Condition.applies_ofDay .datetime),
    refuses_iff hdates hbefore (Condition.applies_ofDay .datetime), hkeeps,
    keeps_ofDay_iff hdates hafter, keeps_ofDay_iff hdates hbefore, not_and_or]

variable {zone : Zone} {store : Store} {now : Instant} {timezone : String}
  {settings : CalendarSettings} {d : Dialect}

/-- Rows can be asked for a side of a day. -/
theorem canAsk_ofDay (hz : dates.zone.IsOrdered) (hnear : dates.zone.IsNear) :
    (Compiler.mk (.relational d) store now timezone settings).CanAsk dates (q.ofDay side day)
      (.date .datetime) := fun _ ht =>
  Clause.exists_ofTest_of_calendar (i := (q.ofDay side day).input dates (.date .datetime))
    (o := .day side) hz hnear nofun (by simp) (Condition.test?_ofDay_iff.1 ht)

/-- Rows can be asked for a range of instants. -/
theorem canAsk_between (hlow : Date.ofText? low = some first)
    (hhigh : Date.ofText? high = some last) (hnext : last.succ? = some next) :
    (Compiler.mk (.relational d) store now timezone settings).CanAsk dates (q.between low high)
      (.date .datetime) := by
  intro t ht
  obtain ⟨start, finish, -, -, rfl⟩ :=
    (Condition.test?_between_datetime_iff hlow hhigh hnext).1 ht
  exact ⟨_, rfl⟩

section Bounds

variable (hlow : Date.ofText? low = some first) (hhigh : Date.ofText? high = some last)
  (hnext : last.succ? = some ⟨last.day + 1⟩)
  (hfirst : Date.dayNumber ⟨1, 1, 1⟩ ≤ first.day ∧ first.day ≤ Date.dayNumber ⟨9998, 12, 31⟩)
  (hlast : Date.dayNumber ⟨1, 1, 1⟩ ≤ last.day ∧ last.day ≤ Date.dayNumber ⟨9998, 12, 31⟩)

include hlow hhigh hnext hfirst hlast

/-- The windows of the sides bound a range of instants, and databases keep the bounds. -/
theorem bounds_of_windows (hz : dates.zone.IsOrdered) (hnear : dates.zone.IsNear)
    (hw : dates.window (.day .onOrAfter) (.string low) = .ok w)
    (hw' : dates.window (.day .onOrBefore) (.string high) = .ok w') (q : Condition) :
    ∃ start finish, w = .since start ∧ w' = .before finish ∧ start.IsStored ∧ finish.IsStored ∧
      (q.between low high).test? dates (.date .datetime) =
        some (.range (.timestamp start) (.exclusive (.timestamp finish))) := by
  obtain ⟨-, start, hstart, rfl⟩ := (DateContext.window_onOrAfter_iff hlow).1 hw
  obtain ⟨-, finish, hfinish, rfl⟩ := (DateContext.window_onOrBefore_iff hhigh hnext).1 hw'
  have h₀ : Date.dayNumber ⟨1, 1, 1⟩ = -719162 := by decide
  have h₁ : Date.dayNumber ⟨9998, 12, 31⟩ = 2932531 := by decide
  refine ⟨start, finish, rfl, rfl, ?_, ?_,
    (Condition.test?_between_datetime_iff hlow hhigh hnext).2
      ⟨start, finish, hstart, hfinish, rfl⟩⟩
  · exact hnear.isStored_of_midnight hz hstart hfirst.1 (by omega)
  · exact hnear.isStored_of_midnight hz hfinish (by dsimp only; omega) (by dsimp only; omega)

/-- On a field of dates the windows contain the starts of the dates between the bounds, which
databases keep. -/
theorem bounds_of_date_windows
    (hw : (dates.forFormat .date).window (.day .onOrAfter) (.string low) = .ok w)
    (hw' : (dates.forFormat .date).window (.day .onOrBefore) (.string high) = .ok w') :
    (Moment.midnight first).IsStored ∧ (Moment.midnight last).IsStored ∧
      ∀ day, first ≤ day ∧ day ≤ last ↔
        w.Contains (.midnight day) ∧ w'.Contains (.midnight day) := by
  obtain ⟨-, start, hstart, rfl⟩ := (DateContext.window_onOrAfter_iff hlow).1 hw
  obtain ⟨-, finish, hfinish, rfl⟩ := (DateContext.window_onOrBefore_iff hhigh hnext).1 hw'
  obtain ⟨-, rfl⟩ := Zone.eq_midnight_of_utc hstart
  obtain ⟨-, rfl⟩ := Zone.eq_midnight_of_utc hfinish
  have h₀ : Date.dayNumber ⟨1, 1, 1⟩ = -719162 := by decide
  have h₁ : Date.dayNumber ⟨9998, 12, 31⟩ = 2932531 := by decide
  have hstored {e : Date} (he : Date.dayNumber ⟨1, 1, 1⟩ ≤ e.day)
      (he' : e.day ≤ Date.dayNumber ⟨9998, 12, 31⟩) : (Moment.midnight e).IsStored := by
    have hin : e.inCalendar = true := Date.inCalendar_iff.2
      ⟨by simp only [Date.firstDay]; omega, by simp only [Date.lastDay]; omega⟩
    exact Zone.isNear_utc.isStored_of_midnight rfl (Zone.midnight_utc hin) he (by omega)
  refine ⟨hstored hfirst.1 hfirst.2, hstored hlast.1 hlast.2, fun day => ?_⟩
  simp only [Window.Contains, Moment.midnight_le_midnight_iff, Moment.midnight_lt_midnight_iff,
    Date.le_iff, Date.lt_iff]
  omega

end Bounds

/-- A range between two plain dates of the years 1 to 9998 is refused exactly if one of its sides
is, and otherwise selects the instants that the windows of both sides contain; on a field of dates
it selects the dates whose starts in UTC both windows contain. Its sides look up the date of the
present, and the range does not, so the clocks have to show one. -/
theorem range_meets_days [ZoneSource] (hzone : Zone.ofName? timezone = some zone)
    (hz : zone.IsOrdered) (hnear : zone.IsNear)
    (hlow : Date.ofText? low = some first) (hhigh : Date.ofText? high = some last)
    (hfirst : 1 ≤ first.civil.year ∧ first.civil.year ≤ 9998)
    (hlast : 1 ≤ last.civil.year ∧ last.civil.year ≤ 9998) (store : Store) (now : Instant)
    (settings : CalendarSettings) (d : Dialect) (q : Condition) :
    let dates : DateContext := ⟨now, zone, settings⟩
    let documents := Compiler.mk .document store now timezone settings
    let rows := Compiler.mk (.relational d) store now timezone settings
    (dates.HasToday →
      documents.FollowsSides dates q low high ∧ rows.FollowsSides dates q low high) ∧
    (∀ w w', dates.window (.day .onOrAfter) (.string low) = .ok w →
      dates.window (.day .onOrBefore) (.string high) = .ok w' →
      (∃ p, documents.condition (q.between low high) (some (.date .datetime)) =
          .ok (.kept p none) ∧
        ∀ same document value t, document.at? q.field = some value →
          value.toScalar? = some (.timestamp t) →
            (p.selects same document = true ↔ w.Contains t ∧ w'.Contains t)) ∧
      ∃ p, rows.condition (q.between low high) (some (.date .datetime)) = .ok (.kept p none) ∧
        ∀ same row t, row ⟨none, q.field⟩ = .value (.timestamp t) →
          (p.selects same row = true ↔ w.Contains t ∧ w'.Contains t)) ∧
    ∀ w w', (dates.forFormat .date).window (.day .onOrAfter) (.string low) = .ok w →
      (dates.forFormat .date).window (.day .onOrBefore) (.string high) = .ok w' →
      (∃ p, documents.condition (q.between low high) (some (.date .date)) = .ok (.kept p none) ∧
        ∀ same document value day, document.at? q.field = some value →
          value.toScalar? = some (.timestamp (.midnight day)) →
            (p.selects same document = true ↔
              w.Contains (.midnight day) ∧ w'.Contains (.midnight day))) ∧
      ∃ p, rows.condition (q.between low high) (some (.date .date)) = .ok (.kept p none) ∧
        ∀ same row day, row ⟨none, q.field⟩ = .value (.date day) →
          (p.selects same row = true ↔
            w.Contains (.midnight day) ∧ w'.Contains (.midnight day)) := by
  intro dates documents rows
  have hdocuments : documents.dates = .ok dates := dates_of_ofName? hzone
  have hrows : rows.dates = .ok dates := dates_of_ofName? hzone
  have hfirst := Date.day_bounds_of_year hfirst.1 hfirst.2
  have hlast := Date.day_bounds_of_year hlast.1 hlast.2
  have hnext : last.succ? = some ⟨last.day + 1⟩ := by
    have h₀ : Date.dayNumber ⟨1, 1, 1⟩ = -719162 := by decide
    have h₁ : Date.dayNumber ⟨9998, 12, 31⟩ = 2932531 := by decide
    exact Date.addDays?_eq_some rfl (by simp only [Date.firstDay]; omega)
      (by simp only [Date.lastDay]; omega)
  refine ⟨fun htoday => ⟨?_, ?_⟩, fun w w' hw hw' => ?_, fun w w' hw hw' => ?_⟩
  · exact followsSides hdocuments htoday hlow hhigh hnext (fun _ _ => ⟨_, rfl⟩)
      (fun _ _ => ⟨_, rfl⟩) fun _ _ => ⟨_, rfl⟩
  · exact followsSides hrows htoday hlow hhigh hnext (canAsk_between hlow hhigh hnext)
      (canAsk_ofDay hz hnear) (canAsk_ofDay hz hnear)
  · obtain ⟨start, finish, rfl, rfl, hstart, hfinish, htest⟩ :=
      bounds_of_windows hlow hhigh hnext hfirst hlast hz hnear hw hw' q
    refine ⟨⟨_, (condition_eq_kept_iff hdocuments).2 ⟨_, htest, rfl⟩, ?_⟩,
      _, (condition_eq_kept_iff hrows).2 ⟨_, htest, rfl⟩, ?_⟩
    · intro same document value t hfound hv
      exact Match.selects_instants_iff hstart hfinish hfound hv
    · intro same row t hrow
      exact Clause.selects_instants_iff hrow
  · obtain ⟨hstored, hstored', hcontains⟩ :=
      bounds_of_date_windows hlow hhigh hnext hfirst hlast hw hw'
    have htest := Condition.test?_between_date (q := q) (c := dates) hlow hhigh
    refine ⟨⟨_, (condition_eq_kept_iff hdocuments).2 ⟨_, htest, rfl⟩, ?_⟩,
      _, (condition_eq_kept_iff hrows).2 ⟨_, htest, rfl⟩, ?_⟩
    · intro same document value day hfound hv
      exact (Match.selects_dates_iff hstored hstored' hfound hv).trans (hcontains day)
    · intro same row day hrow
      exact (Clause.selects_dates_iff hrow).trans (hcontains day)

/-- What starts on some days. -/
def starts : Condition := ⟨"starts", .between, .null, none⟩

/-- The clocks of Sao Paulo at the start of 1970. -/
def saoPaulo : DateContext := ⟨⟨0, 0⟩, .saoPaulo, .default⟩

/-- The second of two days has no midnight in Sao Paulo; the range ends with the midnight after it,
on clocks that are an hour ahead. -/
theorem saoPaulo_range_meets_days :
    (Zone.saoPaulo.IsOrdered ∧ Zone.saoPaulo.IsNear ∧ saoPaulo.HasToday) ∧
      Date.ofText? "2018-11-03" = some ⟨17838⟩ ∧ Date.ofText? "2018-11-04" = some ⟨17839⟩ ∧
      ∃ p, (Compiler.mk (.relational .postgres) ⟨[]⟩ saoPaulo.now "America/Sao_Paulo"
          saoPaulo.settings).condition (starts.between "2018-11-03" "2018-11-04")
            (some (.date .datetime)) = .ok (.kept p none) ∧
        ∀ same row t, row ⟨none, "starts"⟩ = .value (.timestamp t) →
          (p.selects same row = true ↔
            (⟨1541214000, 0⟩ : Instant) ≤ t ∧ t < ⟨1541383200, 0⟩) := by
  have hzone : Zone.ofName? "America/Sao_Paulo" = some .saoPaulo := by decide
  have hz : Zone.saoPaulo.IsOrdered := by decide +kernel
  have hnear : Zone.saoPaulo.IsNear := Zone.isNear_of_offsets (by decide) (by decide +kernel)
  have htoday : saoPaulo.HasToday := by decide +kernel
  have hlow : Date.ofText? "2018-11-03" = some ⟨17838⟩ := by decide +kernel
  have hhigh : Date.ofText? "2018-11-04" = some ⟨17839⟩ := by decide +kernel
  obtain ⟨-, hinstants, -⟩ := range_meets_days hzone hz hnear hlow hhigh (by decide) (by decide)
    ⟨[]⟩ saoPaulo.now saoPaulo.settings .postgres starts
  have hafter : saoPaulo.window (.day .onOrAfter) (.string "2018-11-03") =
      .ok (.since ⟨1541214000, 0⟩) := Results.eq_ok_of_toOption (by decide +kernel)
  have hbefore : saoPaulo.window (.day .onOrBefore) (.string "2018-11-04") =
      .ok (.before ⟨1541383200, 0⟩) := Results.eq_ok_of_toOption (by decide +kernel)
  exact ⟨⟨hz, hnear, htoday⟩, hlow, hhigh, (hinstants _ _ hafter hbefore).2⟩

end Compiler
end RecordFilter
