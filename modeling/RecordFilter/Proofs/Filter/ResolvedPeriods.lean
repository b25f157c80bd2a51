import RecordFilter.Calendar.ZoneTable
import RecordFilter.Proofs.Calendar.SkippedTimes
import RecordFilter.Proofs.Filter.DayWindows
import RecordFilter.Proofs.Filter.PeriodWindows
/-!
# Periods that resolve

The window of a calendar operator that takes no value goes from the start of one date to the start
of another one, both less than three years from the present. For a present in the years 1 to 9999
these dates lie far within the calendar, so the window is found exactly if the clocks of the zone
show each of the two dates within the quarters of an hour that a search for its start tries. They
always do in a zone that never sets its clocks far ahead; a date that the zone left out, or one that
began too late, is the only thing that can keep the window from being found.

## Main definitions

* `DateContext.edges?` — the dates with whose starts the window begins and ends.

## Main statements

* `DateContext.window_eq_dates` — no date or year on the way leaves the calendar.
* `DateContext.calendar_resolves_iff` — when the window is found, and what it fails with.
* `DateContext.apia_lastSevenDays_skipped` — a present for which it is not found.
-/
namespace RecordFilter

namespace DateContext

variable {c : DateContext} {range : CalendarRange} {d first last : Date} {v : Json}

/-! ## Dates around the present -/

/-- The dates with whose starts the window of an operator that takes no value begins and ends. -/
def edges? (c : DateContext) : CalendarRange → Option (Date × Date)
  | .today => some (c.today, ⟨c.today.day + 1⟩)
  | .yesterday => some (⟨c.today.day - 1⟩, c.today)
  | .tomorrow => some (⟨c.today.day + 1⟩, ⟨c.today.day + 2⟩)
  | .nextSevenDays => some (c.today, ⟨c.today.day + 7⟩)
  | .lastSevenDays => some (⟨c.today.day - 6⟩, ⟨c.today.day + 1⟩)
  | .period shift kind =>
    some (c.settings.firstDay kind c.today shift.offset,
      c.settings.firstDay kind c.today (shift.offset + 1))
  | .inFiscalYear => none

/-- The date of today is in the years 0 to 10000, and fiscal years begin with a month of the
year. -/
structure IsWithin (c : DateContext) : Prop where
  day_bounds : -719163 ≤ c.today.day ∧ c.today.day ≤ 2932897
  year_bounds : 0 ≤ c.today.civil.year ∧ c.today.civil.year ≤ 10000
  month_bounds : 1 ≤ c.settings.fiscalMonth ∧ c.settings.fiscalMonth ≤ 12

/-- Clocks are less than a day from UTC, so the date of today is next to that of the present. -/
theorem isWithin_of_now (hnear : c.zone.IsNear)
    (hnow : 1 ≤ c.now.date.civil.year ∧ c.now.date.civil.year ≤ 9999)
    (hmonth : 1 ≤ c.settings.fiscalMonth ∧ c.settings.fiscalMonth ≤ 12) : c.IsWithin := by
  have hoffset := hnear c.now.second
  have htoday : c.today.day = (c.now.second + c.zone.offsetAt c.now.second) / 86400 := rfl
  have hdate : c.now.date.day = c.now.second / 86400 := rfl
  have hlow : Date.dayNumber ⟨1, 1, 1⟩ = -719162 := by decide
  have hhigh : Date.dayNumber ⟨9999, 12, 31⟩ = 2932896 := by decide
  have hbefore : Date.dayNumber ⟨0 - 1, 12, 31⟩ = -719529 := by decide
  have hafter : Date.dayNumber ⟨10000 + 1, 1, 1⟩ = 2933263 := by decide
  have hutc := Date.day_bounds_of_year hnow.1 hnow.2
  have hbounds : -719163 ≤ c.today.day ∧ c.today.day ≤ 2932897 := by omega
  exact ⟨hbounds, Date.year_bounds_of_day (by omega) (by omega), hmonth⟩

theorem IsWithin.hasToday (h : c.IsWithin) : c.HasToday := by
  have hbounds := h.day_bounds
  refine Date.inCalendar_iff.2 ?_
  simp only [Date.firstDay, Date.lastDay]
  omega

theorem IsWithin.monthNumber_bounds (h : c.IsWithin) :
    0 ≤ c.today.monthNumber ∧ c.today.monthNumber ≤ 120011 := by
  obtain ⟨⟨h₀, h₁⟩, -⟩ := Civil.isValid_iff.1 (Date.isValid_civil c.today)
  have := h.year_bounds
  simp only [Date.monthNumber]
  omega

theorem IsWithin.fiscalYear_bounds (h : c.IsWithin) :
    -1 ≤ c.settings.fiscalYearOf c.today ∧ c.settings.fiscalYearOf c.today ≤ 10000 := by
  have := h.year_bounds
  simp only [CalendarSettings.fiscalYearOf]
  split <;> omega

/-- The first days of units up to two places away lie within the calendar. -/
theorem IsWithin.firstDay_within (h : c.IsWithin) (kind : Period) {n : Int} (hn : -1 ≤ n)
    (hn' : n ≤ 2) :
    Date.firstDay < (c.settings.firstDay kind c.today n).day ∧
      (c.settings.firstDay kind c.today n).day < Date.lastDay := by
  have := h.day_bounds
  have := h.monthNumber_bounds
  have := h.year_bounds
  have := h.fiscalYear_bounds
  have := h.month_bounds
  cases kind with
  | week =>
    simp only [CalendarSettings.firstDay, Date.firstDay, Date.lastDay]
    omega
  | _ => exact Date.monthStart_within (by omega) (by omega)

theorem IsWithin.edges_within (h : c.IsWithin) (hedges : c.edges? range = some (first, last)) :
    (Date.firstDay < first.day ∧ first.day < Date.lastDay) ∧
      Date.firstDay < last.day ∧ last.day < Date.lastDay := by
  have hbounds := h.day_bounds
  cases range with
  | period shift kind =>
    cases hedges
    have hshift : -1 ≤ shift.offset ∧ shift.offset ≤ 1 := by cases shift <;> decide
    exact ⟨h.firstDay_within kind (by omega) (by omega),
      h.firstDay_within kind (by omega) (by omega)⟩
  | inFiscalYear => cases hedges
  | _ =>
    cases hedges
    simp only [Date.firstDay, Date.lastDay]
    omega

/-! ## Windows as dates -/

theorem days_eq_dates {n k : Int} (hn : Date.firstDay ≤ d.day + n ∧ d.day + n ≤ Date.lastDay)
    (hk : Date.firstDay ≤ d.day + k ∧ d.day + k ≤ Date.lastDay) :
    c.days d n k = c.dates ⟨d.day + n⟩ ⟨d.day + k⟩ := by
  simp only [days, Date.addDays?_eq_some rfl hn.1 hn.2, Date.addDays?_eq_some rfl hk.1 hk.2]
  rfl

theorem fiscalYear_eq_dates {year : Int} (h : Date.firstYear ≤ year) (h' : year < Date.lastYear)
    (hmonth : 1 ≤ c.settings.fiscalMonth ∧ c.settings.fiscalMonth ≤ 12) :
    c.fiscalYear year = c.dates (.monthStart (year * 12 + (c.settings.fiscalMonth - 1)))
      (.monthStart ((year + 1) * 12 + (c.settings.fiscalMonth - 1))) := by
  simp only [fiscalYear, CalendarSettings.fiscalYearStart?,
    Date.ofCivil?_one_eq h (by omega) hmonth.1 hmonth.2,
    Date.ofCivil?_one_eq (by omega : Date.firstYear ≤ year + 1) h' hmonth.1 hmonth.2]
  rfl

theorem IsWithin.week_eq_dates (h : c.IsWithin) {n : Int} (hn : -1 ≤ n) (hn' : n ≤ 1) :
    c.period c.today .week n = c.dates (c.settings.firstDay .week c.today n)
      (c.settings.firstDay .week c.today (n + 1)) := by
  have hdays := h.day_bounds
  have hday (k : Int) : (c.settings.firstDay .week c.today k).day =
    c.today.day - (c.today.weekday.index + 7 - c.settings.weekStart.index) % 7 + 7 * k := rfl
  have hstart := c.settings.weekStart.index_lt
  obtain ⟨hthis, hthis'⟩ := h.firstDay_within .week (n := 0) (by omega) (by omega)
  obtain ⟨hlow, hhigh⟩ := h.firstDay_within .week hn (by omega)
  obtain ⟨hlow', hhigh'⟩ := h.firstDay_within .week (n := n + 1) (by omega) (by omega)
  have hweek : c.settings.weekStart? c.today = some (c.settings.firstDay .week c.today 0) :=
    Date.addDays?_eq_some (by have := hday 0; omega) (by omega) (by omega)
  have hfirst : (c.settings.firstDay .week c.today 0).addDays? (n * 7) =
      some (c.settings.firstDay .week c.today n) :=
    Date.addDays?_eq_some (by have := hday 0; have := hday n; omega) (by omega) (by omega)
  have hlast : (c.settings.firstDay .week c.today n).addDays? 7 =
      some (c.settings.firstDay .week c.today (n + 1)) :=
    Date.addDays?_eq_some (by have := hday n; have := hday (n + 1); omega) (by omega) (by omega)
  simp only [period, hweek, hfirst, hlast, Results.inRange_some, Results.ok_bind]

/-- On the way to the first days of a unit and the next one no date leaves the calendar. -/
theorem IsWithin.period_eq_dates (h : c.IsWithin) (kind : Period) {n : Int} (hn : -1 ≤ n)
    (hn' : n ≤ 1) :
    c.period c.today kind n = c.dates (c.settings.firstDay kind c.today n)
      (c.settings.firstDay kind c.today (n + 1)) := by
  have hmonths := h.monthNumber_bounds
  have hyears := h.year_bounds
  have hfiscal := h.fiscalYear_bounds
  have hfirst : Date.firstYear = -262143 := rfl
  have hlast : Date.lastYear = 262142 := rfl
  cases kind with
  | week => exact h.week_eq_dates hn hn'
  | month =>
    obtain ⟨⟨h₀, h₁⟩, -⟩ := Civil.isValid_iff.1 (Date.isValid_civil c.today)
    have hthis : Date.ofCivil? c.today.civil.year c.today.civil.month 1 = _ :=
      Date.ofCivil?_one_eq (by omega) (by omega) h₀ h₁
    have hmonth : c.today.civil.year * 12 + ((c.today.civil.month : Int) - 1) =
        c.today.monthNumber := rfl
    simp only [period, hthis, hmonth, Results.inRange_some, Results.ok_bind]
    rw [Date.addMonths?_monthStart_eq (by omega) (by omega)]
    simp only [Results.inRange_some, Results.ok_bind]
    rw [Date.addMonths?_monthStart_eq (by omega) (by omega)]
    simp only [Results.inRange_some, Results.ok_bind, CalendarSettings.firstDay, Int.add_assoc]
  | year =>
    simp only [period]
    rw [Date.ofCivil?_one_eq (by omega) (by omega) (by omega) (by omega),
      Date.ofCivil?_one_eq (by omega) (by omega) (by omega) (by omega)]
    simp [Results.inRange_some, Results.ok_bind, CalendarSettings.firstDay, Int.add_assoc]
  | fiscalYear =>
    rw [period, fiscalYear_eq_dates (by omega) (by omega) h.month_bounds]
    simp only [CalendarSettings.firstDay, Int.add_assoc]

/-- The window of an operator that takes no value goes from the one date to the other. -/
theorem IsWithin.window_eq_dates (h : c.IsWithin) (hedges : c.edges? range = some (first, last)) :
    c.window (.calendar range) v = c.dates first last := by
  rw [h.hasToday.window_eq]
  have hdays := h.day_bounds
  have hfirst : Date.firstDay = -96465292 := rfl
  have hlast : Date.lastDay = 95026236 := rfl
  cases range with
  | period shift kind =>
    cases hedges
    have hshift : -1 ≤ shift.offset ∧ shift.offset ≤ 1 := by cases shift <;> decide
    exact h.period_eq_dates kind hshift.1 hshift.2
  | inFiscalYear => cases hedges
  | _ =>
    cases hedges
    refine (days_eq_dates (by omega) (by omega)).trans ?_
    simp [Int.sub_eq_add_neg]

theorem edges_lt (hedges : c.edges? range = some (first, last)) : first < last := by
  cases range with
  | period shift kind =>
    cases hedges
    exact c.settings.firstDay_lt kind c.today (by omega)
  | inFiscalYear => cases hedges
  | _ =>
    cases hedges
    simp only [Date.lt_iff]
    omega

/-! ## What is found -/

theorem exists_dates_iff : (∃ w, c.dates first last = .ok w) ↔
    (∃ m, c.zone.midnight first = .ok m) ∧ ∃ m, c.zone.midnight last = .ok m := by
  unfold dates midnight
  cases c.zone.midnight first <;> cases c.zone.midnight last <;>
    simp [bind, Except.bind, pure, Except.pure]

/-- Windows between dates fail with the search for the start of one of them. -/
theorem dates_eq_error {e : ValueError} (h : c.dates first last = .error e) :
    ∃ d why, (d = first ∨ d = last) ∧ c.zone.midnight d = .error why ∧ e = .outOfRange why := by
  unfold dates midnight at h
  cases hfirst : c.zone.midnight first with
  | error why =>
    rw [hfirst] at h
    cases h
    exact ⟨first, why, Or.inl rfl, hfirst, rfl⟩
  | ok m =>
    cases hlast : c.zone.midnight last with
    | error why =>
      rw [hfirst, hlast] at h
      cases h
      exact ⟨last, why, Or.inr rfl, hlast, rfl⟩
    | ok m' =>
      rw [hfirst, hlast] at h
      cases h

/-- For a present in the years 1 to 9999 the window of an operator that takes no value goes from the
start of one date to that of another one. It is found exactly if the clocks of the zone show one of
the quarters of an hour that are tried for the start of either date, and otherwise it fails with the
search for one of these starts. Where clocks are never set ahead by more than the search covers, it
is always found. -/
theorem calendar_resolves_iff (hz : c.zone.IsOrdered) (hnear : c.zone.IsNear)
    (hnow : 1 ≤ c.now.date.civil.year ∧ c.now.date.civil.year ≤ 9999)
    (hmonth : 1 ≤ c.settings.fiscalMonth ∧ c.settings.fiscalMonth ≤ 12)
    (hedges : c.edges? range = some (first, last)) (v : Json) :
    ((∃ w, c.window (.calendar range) v = .ok w) ↔
      c.zone.ShowsStart first ∧ c.zone.ShowsStart last) ∧
    (∀ w, c.window (.calendar range) v = .ok w → c.Spans w first last) ∧
    (∀ e, c.window (.calendar range) v = .error e → ∃ d, (d = first ∨ d = last) ∧
      ¬ c.zone.ShowsStart d ∧ e = .outOfRange (.skipped (.midnight d) c.zone.name)) ∧
    (c.zone.IsSpaced → c.zone.HasShortGaps → ∃ w, c.window (.calendar range) v = .ok w) := by
  have hwithin := isWithin_of_now hnear hnow hmonth
  obtain ⟨⟨hfirst, hfirst'⟩, hlast, hlast'⟩ := hwithin.edges_within hedges
  have hfound : (∃ w, c.dates first last = .ok w) ↔
      c.zone.ShowsStart first ∧ c.zone.ShowsStart last := by
    rw [exists_dates_iff, hz.exists_midnight_iff hfirst hfirst',
      hz.exists_midnight_iff hlast hlast']
  rw [hwithin.window_eq_dates hedges]
  refine ⟨hfound, fun w hw => spans_of_dates hz (edges_lt hedges) hw, fun e he => ?_,
    fun hspaced hshort => hfound.2 ⟨?_, ?_⟩⟩
  · obtain ⟨d, why, hd, hwhy, rfl⟩ := dates_eq_error he
    have hedge : Date.firstDay < d.day ∧ d.day < Date.lastDay := by
      rcases hd with rfl | rfl
      · exact ⟨hfirst, hfirst'⟩
      · exact ⟨hlast, hlast'⟩
    have hmissing : ¬ c.zone.ShowsStart d := fun hshown => by
      obtain ⟨m, hm⟩ := (hz.exists_midnight_iff hedge.1 hedge.2).2 hshown
      rw [hwhy] at hm
      cases hm
    have hskipped := hz.midnight_eq_error hedge.1 hedge.2 hmissing
    rw [hwhy, Except.error.injEq] at hskipped
    exact ⟨d, hd, hmissing, hskipped ▸ rfl⟩
  · exact hz.showsStart_of_hasShortGaps hnear hspaced hshort hfirst hfirst'
  · exact hz.showsStart_of_hasShortGaps hnear hspaced hshort hlast hlast'

/-- On the day on which Sao Paulo set its clocks ahead at midnight, today began at one o'clock. -/
theorem saoPauloNoon_today_resolves :
    (saoPauloNoon.zone.IsOrdered ∧ saoPauloNoon.zone.IsNear ∧ saoPauloNoon.zone.IsSpaced ∧
        saoPauloNoon.zone.HasShortGaps) ∧
      (1 ≤ saoPauloNoon.now.date.civil.year ∧ saoPauloNoon.now.date.civil.year ≤ 9999) ∧
      saoPauloNoon.edges? .today = some (⟨17839⟩, ⟨17840⟩) ∧
      saoPauloNoon.zone.ShowsStart ⟨17839⟩ ∧
      ∃ w, saoPauloNoon.window (.calendar .today) .null = .ok w ∧
        saoPauloNoon.Spans w ⟨17839⟩ ⟨17840⟩ := by
  have hz : saoPauloNoon.zone.IsOrdered := by decide +kernel
  have hnear : saoPauloNoon.zone.IsNear := Zone.isNear_of_offsets (by decide) (by decide +kernel)
  have hspaced : saoPauloNoon.zone.IsSpaced := by decide +kernel
  have hshort : saoPauloNoon.zone.HasShortGaps := by decide +kernel
  have hedges : saoPauloNoon.edges? .today = some (⟨17839⟩, ⟨17840⟩) := by decide +kernel
  obtain ⟨hfound, hspans, -, halways⟩ :=
    calendar_resolves_iff hz hnear (by decide) (by decide) hedges .null
  obtain ⟨w, hw⟩ := halways hspaced hshort
  exact ⟨⟨hz, hnear, hspaced, hshort⟩, by decide, hedges, (hfound.1 ⟨w, hw⟩).1, w, hw, hspans w hw⟩

/-- Six days after the date that Apia left out, the last seven days have no start: the search for
the start of that date ends four hours into it. -/
theorem apia_lastSevenDays_skipped :
    Zone.ofName? "Pacific/Apia" = some Zone.apia ∧
      (let c : DateContext := ⟨⟨1325721600, 0⟩, .apia, .default⟩
      c.now.date.civil.year = 2012 ∧ c.settings.fiscalMonth = 4 ∧
      c.edges? .lastSevenDays = some (⟨15338⟩, ⟨15345⟩) ∧
      c.window (.calendar .lastSevenDays) .null =
        .error (.outOfRange (.skipped (.midnight ⟨15338⟩) "Pacific/Apia"))) := by
  refine ⟨by decide, by decide, rfl, by decide +kernel, rfl⟩

end DateContext
end RecordFilter
