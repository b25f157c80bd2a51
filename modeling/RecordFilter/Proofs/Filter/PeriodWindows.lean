import RecordFilter.Proofs.Calendar.DayOrder
import RecordFilter.Proofs.Calendar.MonthStarts
import RecordFilter.Proofs.Filter.DayWindows
/-!
# The windows of periods

Weeks, months, years and fiscal years divide the calendar into units, each from one first day to the
next. The windows of the last, this and the next period are the unit before the one that contains
today, that one and the one behind it, each from the start of its first day to the start of the next
first day. As days start in their order, no such window is empty, and each ends where the next one
starts.

## Main definitions

* `CalendarSettings.IsFirstDay`, `CalendarSettings.IsUnit` — first days, and units between them.
* `CalendarSettings.firstDay` — the first day of a unit, counted from the one of a date.
* `DateContext.Spans` — windows from the start of one date to that of a later one.

## Main statements

* `CalendarSettings.isUnit_firstDay` — units follow each other.
* `DateContext.spans_of_period` — the window of a period.
* `DateContext.periods_around_today` — periods, days and fiscal years around today.
-/
namespace RecordFilter

/-! ## Weekdays -/

namespace Weekday

theorem index_lt (w : Weekday) : w.index < 7 := by cases w <;> decide

theorem index_ofIndex {n : Nat} (h : n < 7) : (ofIndex n).index = n := by
  interval_cases n <;> rfl

theorem index_inj {w w' : Weekday} : w.index = w'.index ↔ w = w' := by
  constructor
  · intro h
    rw [← ofIndex_index w, h, ofIndex_index]
  · intro h
    rw [h]

end Weekday

theorem Date.index_weekday (d : Date) : (d.weekday.index : Int) = (d.day + 3) % 7 := by
  rw [weekday, Weekday.index_ofIndex (by omega)]
  omega

/-! ## Units of the calendar -/

namespace CalendarSettings

variable {s : CalendarSettings} {kind : Period} {d e : Date} {n k : Int}

/-- The days on which a week, a month, a year or a fiscal year begins. -/
def IsFirstDay (s : CalendarSettings) : Period → Date → Prop
  | .week, d => d.weekday = s.weekStart
  | .month, d => d.civil.day = 1
  | .year, d => d.civil.month = 1 ∧ d.civil.day = 1
  | .fiscalYear, d => d.civil.month = s.fiscalMonth ∧ d.civil.day = 1

/-- A unit goes from a first day to the next one. -/
structure IsUnit (s : CalendarSettings) (kind : Period) (first next : Date) : Prop where
  begins : s.IsFirstDay kind first
  ends : s.IsFirstDay kind next
  lt : first < next
  none_between : ∀ d, first < d → d < next → ¬ s.IsFirstDay kind d

/-- The first day of the unit so many places after the one that contains a date. -/
def firstDay (s : CalendarSettings) (kind : Period) (d : Date) (n : Int) : Date :=
  match kind with
  | .week => ⟨d.day - (d.weekday.index + 7 - s.weekStart.index) % 7 + 7 * n⟩
  | .month => .monthStart (d.monthNumber + n)
  | .year => .monthStart ((d.civil.year + n) * 12)
  | .fiscalYear => .monthStart ((s.fiscalYearOf d + n) * 12 + (s.fiscalMonth - 1))

theorem firstDay_lt (s : CalendarSettings) (kind : Period) (d : Date) (h : n < k) :
    s.firstDay kind d n < s.firstDay kind d k := by
  cases kind with
  | week =>
    simp only [firstDay, Date.lt_iff]
    omega
  | _ => exact Date.monthStart_lt_monthStart_iff.2 (by omega)

/-- The first days of one month of the year are every twelfth start of a month. -/
theorem isYearStart_iff {m : Nat} (h₀ : 1 ≤ m) (h₁ : m ≤ 12) :
    e.civil.month = m ∧ e.civil.day = 1 ↔
      ∃ year : Int, e = .monthStart (year * 12 + (m - 1)) := by
  constructor
  · rintro ⟨rfl, hday⟩
    exact ⟨e.civil.year, Date.day_eq_one_iff.1 hday⟩
  · rintro ⟨year, rfl⟩
    rw [Date.civil_monthStart h₀ h₁]
    exact ⟨rfl, rfl⟩

/-- First days are those of the units around a date. -/
theorem isFirstDay_iff (hmonth : 1 ≤ s.fiscalMonth ∧ s.fiscalMonth ≤ 12) (d : Date) :
    s.IsFirstDay kind e ↔ ∃ n, e = s.firstDay kind d n := by
  cases kind with
  | week =>
    have hd := d.index_weekday
    have he := e.index_weekday
    have hstart := s.weekStart.index_lt
    rw [IsFirstDay, ← Weekday.index_inj]
    constructor
    · intro h
      refine ⟨(e.day - (s.firstDay .week d 0).day) / 7, congrArg Date.mk (?_ : e.day = _)⟩
      simp only [firstDay]
      omega
    · rintro ⟨n, rfl⟩
      have hday : (s.firstDay .week d n).day =
        d.day - (d.weekday.index + 7 - s.weekStart.index) % 7 + 7 * n := rfl
      omega
  | month =>
    rw [IsFirstDay, Date.day_eq_one_iff]
    constructor
    · intro h
      refine ⟨e.monthNumber - d.monthNumber, h.trans (congrArg _ ?_)⟩
      omega
    · rintro ⟨n, rfl⟩
      simp [firstDay]
  | year =>
    rw [IsFirstDay, isYearStart_iff (by omega) (by omega)]
    constructor
    · rintro ⟨year, rfl⟩
      exact ⟨year - d.civil.year, congrArg Date.monthStart (by omega)⟩
    · rintro ⟨n, rfl⟩
      exact ⟨d.civil.year + n, congrArg Date.monthStart (by omega)⟩
  | fiscalYear =>
    rw [IsFirstDay, isYearStart_iff hmonth.1 hmonth.2]
    constructor
    · rintro ⟨year, rfl⟩
      exact ⟨year - s.fiscalYearOf d, congrArg Date.monthStart (by omega)⟩
    · rintro ⟨n, rfl⟩
      exact ⟨s.fiscalYearOf d + n, rfl⟩

theorem isUnit_firstDay (hmonth : 1 ≤ s.fiscalMonth ∧ s.fiscalMonth ≤ 12) (kind : Period)
    (d : Date) (n : Int) : s.IsUnit kind (s.firstDay kind d n) (s.firstDay kind d (n + 1)) where
  begins := (isFirstDay_iff hmonth d).2 ⟨n, rfl⟩
  ends := (isFirstDay_iff hmonth d).2 ⟨n + 1, rfl⟩
  lt := s.firstDay_lt kind d (by omega)
  none_between := by
    intro e hafter hbefore hfirst
    obtain ⟨k, rfl⟩ := (isFirstDay_iff hmonth d).1 hfirst
    have hle {i j : Int} (h : s.firstDay kind d i < s.firstDay kind d j) : i < j := by
      rcases Int.lt_trichotomy i j with hij | rfl | hji
      · exact hij
      · exact absurd h (Int.lt_irrefl _)
      · exact absurd (s.firstDay_lt kind d hji) (Int.lt_asymm h)
    have := hle hafter
    have := hle hbefore
    omega

/-- A date lies in the unit from which units are counted. -/
theorem firstDay_zero_le (hmonth : 1 ≤ s.fiscalMonth ∧ s.fiscalMonth ≤ 12) (kind : Period)
    (d : Date) : s.firstDay kind d 0 ≤ d ∧ d < s.firstDay kind d 1 := by
  have hstart := d.monthStart_monthNumber_le
  have hfinish := d.lt_monthStart_monthNumber
  obtain ⟨⟨h₀, h₁⟩, -⟩ := Civil.isValid_iff.1 (Date.isValid_civil d)
  have hwithin {k j : Int} (hk : k ≤ d.monthNumber) (hj : d.monthNumber < j) :
      Date.monthStart k ≤ d ∧ d < Date.monthStart j := by
    have hbefore := Date.monthStart_mono hk
    have hafter := Date.monthStart_mono (Int.add_one_le_of_lt hj)
    simp only [Date.le_iff, Date.lt_iff] at *
    omega
  cases kind with
  | week =>
    simp only [firstDay, Date.le_iff, Date.lt_iff]
    omega
  | month => exact hwithin (by omega) (by omega)
  | year =>
    simp only [Date.monthNumber] at hwithin
    exact hwithin (by omega) (by omega)
  | fiscalYear =>
    simp only [Date.monthNumber] at hwithin
    simp only [firstDay, fiscalYearOf]
    split <;> exact hwithin (by omega) (by omega)

end CalendarSettings

/-! ## Windows -/

namespace DateContext

variable {c : DateContext} {d first last : Date} {w w' : Window} {offset : Int} {kind : Period}

/-- The window goes from the start of one date to that of another, later one. -/
def Spans (c : DateContext) (w : Window) (first last : Date) : Prop :=
  ∃ start finish, c.zone.midnight first = .ok start ∧ c.zone.midnight last = .ok finish ∧
    start < finish ∧ w = .between start finish

/-- A window ends where one begins that goes on from its last date. -/
theorem Spans.finish?_eq {next : Date} (h : c.Spans w first last) (h' : c.Spans w' last next) :
    w.finish? = w'.start? := by
  obtain ⟨_, finish, -, hfinish, -, rfl⟩ := h
  obtain ⟨start, _, hstart, -, -, rfl⟩ := h'
  rw [hfinish] at hstart
  cases hstart
  rfl

theorem spans_of_dates (hz : c.zone.IsOrdered) (hlt : first < last)
    (h : c.dates first last = .ok w) : c.Spans w first last := by
  simp only [dates, Results.bind_eq_ok, Results.pure_eq_ok] at h
  obtain ⟨start, hstart, finish, hfinish, rfl⟩ := h
  have hstart := zone_midnight_eq_ok hstart
  have hfinish := zone_midnight_eq_ok hfinish
  exact ⟨start, finish, hstart, hfinish, hz.midnight_lt hlt hstart hfinish, rfl⟩

theorem spans_of_days (hz : c.zone.IsOrdered) {n k : Int} (hlt : n < k)
    (h : c.days d n k = .ok w) : c.Spans w ⟨d.day + n⟩ ⟨d.day + k⟩ := by
  have hdates : c.dates ⟨d.day + n⟩ ⟨d.day + k⟩ = .ok w := by
    simp only [days, Results.bind_eq_ok] at h
    obtain ⟨first, hfirst, start, hstart, last, hlast, finish, hfinish, h⟩ := h
    obtain rfl := Date.day_of_checked (Results.inRange_eq_ok hfirst)
    obtain rfl := Date.day_of_checked (Results.inRange_eq_ok hlast)
    simp only [dates, hstart, hfinish]
    exact h
  exact spans_of_dates hz (by simp only [Date.lt_iff]; omega) hdates

theorem dates_of_fiscalYear {year : Int} (h : c.fiscalYear year = .ok w) :
    c.dates (.monthStart (year * 12 + (c.settings.fiscalMonth - 1)))
      (.monthStart ((year + 1) * 12 + (c.settings.fiscalMonth - 1))) = .ok w := by
  simp only [fiscalYear, Results.bind_eq_ok] at h
  obtain ⟨first, hfirst, last, hlast, h⟩ := h
  rw [← Date.ofCivil?_one (Results.inRange_eq_ok hfirst),
    ← Date.ofCivil?_one (Results.inRange_eq_ok hlast)]
  exact h

/-- A period around a date goes from the first day of its unit to that of the next one. -/
theorem dates_of_period (h : c.period d kind offset = .ok w) :
    c.dates (c.settings.firstDay kind d offset)
      (c.settings.firstDay kind d (offset + 1)) = .ok w := by
  cases kind with
  | week =>
    simp only [period, Results.bind_eq_ok] at h
    obtain ⟨week, hweek, first, hfirst, last, hlast, h⟩ := h
    have hweek := Date.day_of_addDays? (Results.inRange_eq_ok hweek)
    have hfirst := Date.day_of_addDays? (Results.inRange_eq_ok hfirst)
    have hlast := Date.day_of_addDays? (Results.inRange_eq_ok hlast)
    have hstart := c.settings.weekStart.index_lt
    have hf : c.settings.firstDay .week d offset = first := by
      refine congrArg Date.mk (?_ : _ = first.day)
      omega
    have hl : c.settings.firstDay .week d (offset + 1) = last := by
      refine congrArg Date.mk (?_ : _ = last.day)
      omega
    rwa [hf, hl]
  | month =>
    simp only [period, Results.bind_eq_ok] at h
    obtain ⟨month, hmonth, first, hfirst, last, hlast, h⟩ := h
    obtain rfl := Date.ofCivil?_one (Results.inRange_eq_ok hmonth)
    obtain rfl := Date.addMonths?_monthStart (Results.inRange_eq_ok hfirst)
    obtain rfl := Date.addMonths?_monthStart (Results.inRange_eq_ok hlast)
    have hnext : d.monthNumber + (offset + 1) = d.monthNumber + offset + 1 := by omega
    simp only [CalendarSettings.firstDay, hnext]
    exact h
  | year =>
    simp only [period, Results.bind_eq_ok] at h
    obtain ⟨first, hfirst, last, hlast, h⟩ := h
    obtain rfl := Date.ofCivil?_one (Results.inRange_eq_ok hfirst)
    obtain rfl := Date.ofCivil?_one (Results.inRange_eq_ok hlast)
    simp only [CalendarSettings.firstDay]
    simpa [Int.add_assoc] using h
  | fiscalYear =>
    have hdates := dates_of_fiscalYear h
    rw [Int.add_assoc] at hdates
    exact hdates

theorem spans_of_period {shift : Shift} {v : Json} (hz : c.zone.IsOrdered)
    (h : c.window (.calendar (.period shift kind)) v = .ok w) :
    c.Spans w (c.settings.firstDay kind c.today shift.offset)
      (c.settings.firstDay kind c.today (shift.offset + 1)) :=
  spans_of_dates hz (c.settings.firstDay_lt kind c.today (by omega))
    (dates_of_period (window_eq_ok_iff.1 h).2)

/-- The years of fiscal years that resolve fit the numbers that are read as years. -/
theorem yearOf_of_fiscalYear {year : Int} (h : c.fiscalYear year = .ok w) :
    yearOf (.number (.int year)) = .ok year := by
  simp only [fiscalYear, Results.bind_eq_ok] at h
  obtain ⟨first, hfirst, -⟩ := h
  obtain ⟨hlow, hhigh, -⟩ := Date.ofCivil?_eq_some (Results.inRange_eq_ok hfirst)
  simp only [Date.firstYear, Date.lastYear] at hlow hhigh
  have hread : (Number.int year).toInt64? = some year :=
    Number.toInt64?_int (fitsInt64_iff.2 ⟨by omega, by omega⟩)
  have hfits : fitsInt32 year = true := by
    simp only [fitsInt32, Bool.and_eq_true, decide_eq_true_eq]
    omega
  simp only [yearOf, hread, hfits, if_true]
  rfl

theorem eq_of_yearOf {year read : Int} (h : yearOf (.number (.int year)) = .ok read) :
    read = year := by
  unfold yearOf at h
  dsimp only [pure_bind] at h
  split at h
  · next z hz =>
    obtain rfl : year = z := by simpa using Number.eq_int_of_toInt64? hz
    have hread := Results.inRange_eq_ok h
    split at hread <;> simp_all
  · cases h

/-- The window of a fiscal year that is given as a number. -/
theorem window_inFiscalYear_iff {year : Int} :
    c.window (.calendar .inFiscalYear) (.number (.int year)) = .ok w ↔
      c.HasToday ∧ c.fiscalYear year = .ok w := by
  simp only [window_eq_ok_iff, windowOn, Results.bind_eq_ok, and_congr_right_iff]
  intro _
  constructor
  · rintro ⟨read, hread, h⟩
    obtain rfl := eq_of_yearOf hread
    exact h
  · intro h
    exact ⟨year, yearOf_of_fiscalYear h, h⟩

/-- Each period divides the calendar into units, and today lies in one of them: the window of this
period is that unit, those of the last and the next one are its neighbours. Yesterday, today and
tomorrow are neighbouring days. Windows that are neighbours end where the next one starts, and none
of them is empty. The fiscal years around today are those of the year in which the fiscal year of
today began. -/
theorem periods_around_today (hz : c.zone.IsOrdered)
    (hmonth : 1 ≤ c.settings.fiscalMonth ∧ c.settings.fiscalMonth ≤ 12) (v : Json) :
    (∀ kind, ∃ unit : Int → Date,
      (∀ n, c.settings.IsUnit kind (unit n) (unit (n + 1))) ∧
      (unit 0 ≤ c.today ∧ c.today < unit 1) ∧
      ∀ shift w, c.window (.calendar (.period shift kind)) v = .ok w →
        c.Spans w (unit shift.offset) (unit (shift.offset + 1))) ∧
    (∀ kind last this next, c.window (.calendar (.period .last kind)) v = .ok last →
      c.window (.calendar (.period .this kind)) v = .ok this →
      c.window (.calendar (.period .next kind)) v = .ok next →
        last.finish? = this.start? ∧ this.finish? = next.start?) ∧
    ((∀ w, c.window (.calendar .yesterday) v = .ok w → c.Spans w ⟨c.today.day - 1⟩ c.today) ∧
      (∀ w, c.window (.calendar .today) v = .ok w → c.Spans w c.today ⟨c.today.day + 1⟩) ∧
      ∀ w, c.window (.calendar .tomorrow) v = .ok w →
        c.Spans w ⟨c.today.day + 1⟩ ⟨c.today.day + 2⟩) ∧
    ∀ shift w, c.window (.calendar (.period shift .fiscalYear)) v = .ok w ↔
      c.window (.calendar .inFiscalYear)
        (.number (.int (c.settings.fiscalYearOf c.today + shift.offset))) = .ok w := by
  refine ⟨fun kind => ⟨c.settings.firstDay kind c.today, ?_, ?_, ?_⟩, ?_, ⟨?_, ?_, ?_⟩, ?_⟩
  · exact CalendarSettings.isUnit_firstDay hmonth kind c.today
  · exact CalendarSettings.firstDay_zero_le hmonth kind c.today
  · intro shift w hw
    exact spans_of_period hz hw
  · intro kind last this next hlast hthis hnext
    have hlast := spans_of_period hz hlast
    have hthis := spans_of_period hz hthis
    have hnext := spans_of_period hz hnext
    exact ⟨hlast.finish?_eq hthis, hthis.finish?_eq hnext⟩
  · intro w hw
    have hspans := spans_of_days hz (by omega) (window_eq_ok_iff.1 hw).2
    rwa [Int.add_zero] at hspans
  · intro w hw
    have hspans := spans_of_days hz (by omega) (window_eq_ok_iff.1 hw).2
    rwa [Int.add_zero] at hspans
  · intro w hw
    exact spans_of_days hz (by omega) (window_eq_ok_iff.1 hw).2
  · intro shift w
    rw [window_inFiscalYear_iff, window_eq_ok_iff]
    rfl

/-- The evening of 15 January 2025 in UTC, when it is the next day already in Tokyo. -/
def tokyoMorning : DateContext := ⟨⟨1736971200, 0⟩, .tokyo, .default⟩

/-- The fiscal years around that day, from April to April on the clocks of Tokyo. -/
theorem tokyoMorning_fiscalYears :
    tokyoMorning.zone.IsOrdered ∧
      tokyoMorning.window (.calendar .inFiscalYear) (.number (.int 2024)) =
        .ok (.between ⟨1711897200, 0⟩ ⟨1743433200, 0⟩) ∧
      (∃ first next, tokyoMorning.settings.IsUnit .fiscalYear first next ∧
        (first ≤ tokyoMorning.today ∧ tokyoMorning.today < next) ∧
        tokyoMorning.Spans (.between ⟨1711897200, 0⟩ ⟨1743433200, 0⟩) first next) ∧
      tokyoMorning.Spans (.between ⟨1736866800, 0⟩ ⟨1736953200, 0⟩) ⟨20103⟩ ⟨20104⟩ := by
  have hz : tokyoMorning.zone.IsOrdered := by decide +kernel
  obtain ⟨hunits, -, ⟨hyesterday, -⟩, hfiscal⟩ := periods_around_today hz (by decide) .null
  obtain ⟨unit, hunit, htoday, hspans⟩ := hunits .fiscalYear
  have hthis : tokyoMorning.window (.calendar (.period .this .fiscalYear)) .null =
      .ok (.between ⟨1711897200, 0⟩ ⟨1743433200, 0⟩) :=
    Results.eq_ok_of_toOption (by decide +kernel)
  have hbefore : tokyoMorning.window (.calendar .yesterday) .null =
      .ok (.between ⟨1736866800, 0⟩ ⟨1736953200, 0⟩) :=
    Results.eq_ok_of_toOption (by decide +kernel)
  exact ⟨hz, (hfiscal .this _).1 hthis,
    ⟨unit 0, unit 1, hunit 0, htoday, hspans .this _ hthis⟩, hyesterday _ hbefore⟩

end DateContext
end RecordFilter
