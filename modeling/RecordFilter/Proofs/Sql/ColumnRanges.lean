import RecordFilter.Proofs.Calendar.NamedDates
import RecordFilter.Proofs.Filter.WindowSources
import RecordFilter.Proofs.Filter.DayWindows
import RecordFilter.Proofs.Plan.ConditionTests
import RecordFilter.Proofs.Sql.WindowBounds
/-!
# Bounds that a column cannot hold

Every test has a clause, except for windows on a column of dates that have a bound behind the start
of the last date of the calendar. Windows that follow the calendar have none there, so only those of
rolling operators are refused.

## Main definitions

* `Clause.IsBound` — instants that a column can be compared with.

## Main statements

* `Clause.exists_ofTest_of_calendar` — windows that follow the calendar have a clause.
* `Clause.exists_ofTest_of_rolling`, `Clause.ofTest_rolling_eq_error` — when rolling windows do.
-/
namespace RecordFilter

namespace Clause

variable {dateOnly : Bool} {column : Column} {t : Instant} {d : Date} {z : Zone} {w : Window}

/-! ## Bounds -/

/-- What a column can be compared with: any instant, but dates only up to the last one. -/
def IsBound (dateOnly : Bool) (t : Instant) : Prop :=
  dateOnly = true → t.inCalendar = true ∧ ¬ Moment.lastMidnight < t

theorem exists_bound (h : IsBound dateOnly t) : ∃ b, bound dateOnly t = .ok b := by
  cases dateOnly with
  | false => exact ⟨_, rfl⟩
  | true =>
    obtain ⟨hin, hlast⟩ := h rfl
    obtain ⟨d, hd⟩ := Option.ne_none_iff_exists'.1 (mt (Moment.ceilDate?_eq_none_iff hin).1 hlast)
    exact ⟨.date d, by simp [bound, hd, ValueError.inRange, Except.map]⟩

theorem bound_eq_error (hin : t.inCalendar = true) (h : Moment.lastMidnight < t) :
    bound true t = .error (.outOfRange .beyondCalendar) := by
  simp [bound, (Moment.ceilDate?_eq_none_iff hin).2 h, ValueError.inRange, Except.map]

/-- The start of a date is such an instant, as a field of dates is understood in UTC. -/
theorem isBound_midnight (hutc : dateOnly = true → z = .utc) (h : z.midnight d = .ok t) :
    IsBound dateOnly t := by
  intro hdate
  rw [hutc hdate] at h
  obtain ⟨hd, rfl⟩ := Zone.eq_midnight_of_utc h
  have hlast := (Date.inCalendar_iff.1 hd).2
  refine ⟨by rwa [Moment.inCalendar, Moment.date_midnight], ?_⟩
  rw [Moment.lastMidnight, Moment.midnight_lt_midnight_iff, Date.lt_iff]
  exact Int.not_lt.2 hlast

/-- There is a value before the end of a day that is not before the calendar. -/
theorem exists_lastBefore (hz : z.IsOrdered) (hnear : z.IsNear) (hutc : dateOnly = true → z = .utc)
    (hd : Date.firstDay ≤ d.day) (h : z.midnight ⟨d.day + 1⟩ = .ok t) :
    ∃ b, lastBefore dateOnly t = .ok b := by
  cases dateOnly with
  | true =>
    rw [hutc rfl] at h
    obtain ⟨hnext, rfl⟩ := Zone.eq_midnight_of_utc h
    have hlast : d.day + 1 ≤ Date.lastDay := (Date.inCalendar_iff.1 hnext).2
    have hin : d.inCalendar = true := Date.inCalendar_iff.2 ⟨hd, by omega⟩
    have hday : Date.addDays? ⟨d.day + 1⟩ (-1) = some d := by
      simp [Date.addDays?, Date.checked, hin]
    exact ⟨.date d, by simp [lastBefore, hday, ValueError.inRange, Except.map]⟩
  | false =>
    obtain ⟨hin, hnano, hafter⟩ := hnear.lt_second_of_midnight hz h
    have hafter : d.day * 86400 < t.second := by simpa using hafter
    have hend := (t.inCalendar_iff.1 hin).2
    have hbefore : t.millisecondBefore = ⟨t.second - 1, 999000000⟩ := by
      simp [Moment.millisecondBefore, hnano]
    have hin' : Moment.inCalendar ⟨t.second - 1, 999000000⟩ = true := by
      rw [Moment.inCalendar_iff]
      simp only [Zone.firstSecond, Moment.secondsPerDay]
      omega
    refine ⟨.timestamp ⟨t.second - 1, 999000000⟩, ?_⟩
    simp [lastBefore, Moment.millisecondBefore?, hbefore, Moment.checked, hin', ValueError.inRange,
      Except.map]

/-! ## Windows -/

theorem exists_window (h : w.BoundedBy (IsBound dateOnly)) :
    ∃ c, window column dateOnly w = .ok c := by
  cases w with
  | between start finish =>
    obtain ⟨hstart, hfinish⟩ := Window.boundedBy_between.1 h
    obtain ⟨low, hlow⟩ := exists_bound hstart
    obtain ⟨high, hhigh⟩ := exists_bound hfinish
    exact ⟨_, by simp only [window, hlow, hhigh]; rfl⟩
  | since start =>
    obtain ⟨low, hlow⟩ := exists_bound (Window.boundedBy_since.1 h)
    exact ⟨_, by simp only [window, hlow]; rfl⟩
  | before finish =>
    obtain ⟨high, hhigh⟩ := exists_bound (Window.boundedBy_before.1 h)
    exact ⟨_, by simp only [window, hhigh]; rfl⟩

/-- A window with a bound behind the start of the last date has no clause. -/
theorem window_eq_error (hin : w.BoundedBy (·.inCalendar = true))
    (hlast : ¬ w.BoundedBy fun b => ¬ Moment.lastMidnight < b) :
    window column true w = .error (.outOfRange .beyondCalendar) := by
  cases w with
  | between start finish =>
    rw [Window.boundedBy_between] at hin hlast
    by_cases hstart : Moment.lastMidnight < start
    · simp only [window, bound_eq_error hin.1 hstart]
      rfl
    · have hfinish : Moment.lastMidnight < finish := by
        by_contra hfinish
        exact hlast ⟨hstart, hfinish⟩
      obtain ⟨low, hlow⟩ : ∃ low, bound true start = .ok low :=
        exists_bound fun _ => ⟨hin.1, hstart⟩
      simp only [window, hlow, bound_eq_error hin.2 hfinish]
      rfl
  | since start =>
    rw [Window.boundedBy_since] at hin hlast
    simp only [window, bound_eq_error hin (Classical.not_not.1 hlast)]
    rfl
  | before finish =>
    rw [Window.boundedBy_before] at hin hlast
    simp only [window, bound_eq_error hin (Classical.not_not.1 hlast)]
    rfl

end Clause

/-! ## Date operators -/

namespace DateContext

variable {c : DateContext} {v : Json}

theorem firstDay_le_of_dayOf {d : Date} (hnear : c.zone.IsNear) (h : c.dayOf v = .ok d) :
    Date.firstDay ≤ d.day := by
  unfold dayOf at h
  split at h
  · split at h
    · next day hday =>
      cases h
      exact (Date.inCalendar_iff.1 (hnear.inCalendar_of_readDay hday)).1
    · cases h
  · cases h

/-- A rolling window from a present within the calendar lies within the calendar. -/
theorem inCalendar_of_rolling {direction : Direction} {unit : TimeUnit} {w : Window}
    (hnow : c.now.inCalendar = true) (h : c.window (.rolling direction unit) v = .ok w) :
    w.BoundedBy (·.inCalendar = true) := by
  refine boundedBy_of_rolling hnow (fun unit count t ht => ?_) h
  cases unit with
  | months | years => exact Moment.inCalendar_of_addMonths? hnow ht
  | _ => exact Moment.inCalendar_of_addSeconds? ht

end DateContext

namespace Clause

variable {anyCase dateOnly : Bool} {column : Column} {test : Test} {i : ConditionInput}
  {o : DateOperator}

/-- The test of an operator that follows the calendar has a clause. -/
theorem exists_ofTest_of_calendar (hz : i.dates.zone.IsOrdered) (hnear : i.dates.zone.IsNear)
    (hutc : dateOnly = true → i.dates.zone = .utc)
    (ho : ∀ direction unit, o ≠ .rolling direction unit) (h : i.dateTest o = .ok test) :
    ∃ c, ofTest anyCase dateOnly column test = .ok c := by
  have hbound (d : Date) (t : Instant) (ht : i.dates.midnight d = .ok t) : IsBound dateOnly t :=
    isBound_midnight hutc (DateContext.zone_midnight_eq_ok ht)
  unfold ConditionInput.dateTest at h
  split at h <;> simp only [Results.bind_eq_ok, Results.pure_eq_ok] at h <;>
    obtain ⟨w, hw, rfl⟩ := h
  case h_1 =>
    obtain ⟨-, hw⟩ := DateContext.window_eq_ok_iff.1 hw
    simp only [DateContext.windowOn, Results.bind_eq_ok] at hw
    obtain ⟨d, hd, hdays⟩ := hw
    obtain ⟨start, finish, hstart, hfinish, rfl⟩ := DateContext.days_zero_one hdays
    obtain ⟨low, hlow⟩ := exists_bound (hbound d start hstart)
    obtain ⟨high, hhigh⟩ := exists_lastBefore hz hnear hutc
      (DateContext.firstDay_le_of_dayOf hnear hd) (DateContext.zone_midnight_eq_ok hfinish)
    exact ⟨_, by simp only [ofTest, wholeDays, hlow, hhigh]; rfl⟩
  case h_2 =>
    obtain ⟨-, hw⟩ := DateContext.window_eq_ok_iff.1 hw
    simp only [DateContext.windowOn, Results.bind_eq_ok, Results.pure_eq_ok] at hw
    obtain ⟨d, hd, next, hnext, finish, hfinish, rfl⟩ := hw
    obtain rfl := Date.day_of_checked (Results.inRange_eq_ok hnext)
    obtain ⟨high, hhigh⟩ := exists_lastBefore hz hnear hutc
      (DateContext.firstDay_le_of_dayOf hnear hd) (DateContext.zone_midnight_eq_ok hfinish)
    exact ⟨_, by simp only [ofTest, wholeDays, hhigh]; rfl⟩
  case h_3 => exact exists_window (DateContext.boundedBy_of_window hbound ho hw)

variable {direction : Direction} {unit : TimeUnit} {w : Window}

/-- The test of a rolling operator has a clause unless the column holds dates and a bound is behind
the start of the last one. -/
theorem exists_ofTest_of_rolling (hnow : i.dates.now.inCalendar = true)
    (h : i.dates.window (.rolling direction unit) i.value = .ok w)
    (hlast : dateOnly = true → w.BoundedBy fun b => ¬ Moment.lastMidnight < b) :
    ∃ c, ofTest anyCase dateOnly column (.window w) = .ok c :=
  exists_window fun b hb hdate => ⟨DateContext.inCalendar_of_rolling hnow h b hb, hlast hdate b hb⟩

theorem ofTest_rolling_eq_error (anyCase : Bool) (hnow : i.dates.now.inCalendar = true)
    (h : i.dates.window (.rolling direction unit) i.value = .ok w)
    (hlast : ¬ w.BoundedBy fun b => ¬ Moment.lastMidnight < b) :
    ofTest anyCase true column (.window w) = .error (.outOfRange .beyondCalendar) :=
  window_eq_error (DateContext.inCalendar_of_rolling hnow h) hlast

end Clause
end RecordFilter
