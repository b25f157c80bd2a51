import RecordFilter.Proofs.Calendar.Bounds
import RecordFilter.Proofs.Calendar.DayStarts
/-!
# Within the calendar

A date that is made of a year, a month and a day lies in the calendar, and moving it by months keeps
it there. Where the clocks of a zone are less than a day from UTC, the start of a date comes after
the start, in UTC, of the day before.

## Main definitions

* `Date.daysBefore` — the days before a year that is counted from March.
* `Moment.lastMidnight` — the start of the last date of the calendar.
* `Zone.IsNear` — zones whose clocks are less than a day from UTC.

## Main statements

* `Date.inCalendar_of_ofCivil?` — dates that exist lie in the calendar.
* `Moment.ceilDate?_eq_none_iff` — when no date of the calendar is at or after an instant.
* `Zone.eq_midnight_of_utc`, `Zone.midnight_utc` — in UTC the start of a date is its midnight.
* `Zone.IsNear.lt_second_of_midnight` — the start of a date in a zone of the calendar.
-/
namespace RecordFilter

theorem Civil.daysInMonth_le (year : Int) (month : Nat) : Civil.daysInMonth year month ≤ 31 := by
  unfold Civil.daysInMonth
  repeat' split
  all_goals omega

namespace Date

/-! ## Years in order -/

/-- The days before the first of March of a year. -/
def daysBefore (year : Int) : Int :=
  year / 400 * 146097 + (year % 400 * 365 + year % 400 / 4 - year % 400 / 100)

theorem daysBefore_succ (year : Int) : daysBefore year + 365 ≤ daysBefore (year + 1) := by
  unfold daysBefore
  omega

theorem daysBefore_mono {year later : Int} (h : year ≤ later) :
    daysBefore year ≤ daysBefore later := by
  obtain ⟨n, rfl⟩ := Int.le.dest h
  induction n with
  | zero => simp
  | succ n ih =>
    have hnext := daysBefore_succ (year + n)
    rw [Int.add_assoc] at hnext
    have := ih (by omega)
    push_cast
    omega

theorem dayNumber_of_month_le {c : Civil} (h : c.month ≤ 2) :
    dayNumber c =
      daysBefore (c.year - 1) + ((153 * ((c.month : Int) + 9) + 2) / 5 + c.day - 1) - 719468 := by
  simp only [dayNumber, daysBefore, if_pos h]
  omega

theorem dayNumber_of_lt_month {c : Civil} (h : 2 < c.month) :
    dayNumber c =
      daysBefore c.year + ((153 * ((c.month : Int) - 3) + 2) / 5 + c.day - 1) - 719468 := by
  simp only [dayNumber, daysBefore, if_neg (Nat.not_le.2 h)]
  omega

theorem isValid_bounds {c : Civil} (h : c.isValid = true) :
    (1 ≤ c.month ∧ c.month ≤ 12) ∧ 1 ≤ c.day ∧ c.day ≤ 31 := by
  simp only [Civil.isValid, Bool.and_eq_true, decide_eq_true_eq] at h
  have := Civil.daysInMonth_le c.year c.month
  omega

theorem dayNumber_first (year : Int) :
    dayNumber ⟨year, 1, 1⟩ = daysBefore (year - 1) + 306 - 719468 := by
  simp [dayNumber_of_month_le]

theorem dayNumber_last (year : Int) :
    dayNumber ⟨year, 12, 31⟩ = daysBefore year + 305 - 719468 := by
  simp [dayNumber_of_lt_month]

/-- No date of a year or of a later one is before the first of January. -/
theorem dayNumber_ge {c : Civil} {year : Int} (hc : c.isValid = true) (h : year ≤ c.year) :
    dayNumber ⟨year, 1, 1⟩ ≤ dayNumber c := by
  obtain ⟨⟨hm₀, hm₁⟩, hd₀, hd₁⟩ := isValid_bounds hc
  rw [dayNumber_first]
  by_cases hm : c.month ≤ 2
  · have := daysBefore_mono (Int.sub_le_sub_right h 1)
    rw [dayNumber_of_month_le hm]
    omega
  · have := daysBefore_mono h
    have hnext := daysBefore_succ (year - 1)
    rw [Int.sub_add_cancel] at hnext
    rw [dayNumber_of_lt_month (by omega)]
    omega

/-- No date of a year or of an earlier one is after the last of December. -/
theorem dayNumber_le {c : Civil} {year : Int} (hc : c.isValid = true) (h : c.year ≤ year) :
    dayNumber c ≤ dayNumber ⟨year, 12, 31⟩ := by
  obtain ⟨⟨hm₀, hm₁⟩, hd₀, hd₁⟩ := isValid_bounds hc
  rw [dayNumber_last]
  by_cases hm : c.month ≤ 2
  · have := daysBefore_mono h
    have hnext := daysBefore_succ (c.year - 1)
    rw [Int.sub_add_cancel] at hnext
    rw [dayNumber_of_month_le hm]
    omega
  · have := daysBefore_mono h
    rw [dayNumber_of_lt_month (by omega)]
    omega

variable {d e : Date} {year n : Int} {month day : Nat}

theorem ofCivil?_eq_some (h : ofCivil? year month day = some d) :
    firstYear ≤ year ∧ year ≤ lastYear ∧ Civil.isValid ⟨year, month, day⟩ = true ∧
      d = ⟨dayNumber ⟨year, month, day⟩⟩ := by
  simp only [ofCivil?] at h
  split at h
  · next hc =>
    simp only [Bool.and_eq_true, decide_eq_true_eq] at hc
    exact ⟨hc.1.1, hc.1.2, hc.2, (Option.some.inj h).symm⟩
  · cases h

/-- The year, month and day of a date of the calendar lead to a date of the calendar. -/
theorem inCalendar_of_ofCivil? (h : ofCivil? year month day = some d) : d.inCalendar = true := by
  obtain ⟨hfirst, hlast, hvalid, rfl⟩ := ofCivil?_eq_some h
  have hge : firstDay ≤ dayNumber ⟨year, month, day⟩ := dayNumber_ge hvalid hfirst
  have hle : dayNumber ⟨year, month, day⟩ ≤ lastDay := dayNumber_le hvalid hlast
  simp [inCalendar, hge, hle]

theorem inCalendar_of_addMonths? (h : d.addMonths? n = some e) : e.inCalendar = true :=
  inCalendar_of_ofCivil? h

theorem inCalendar_iff : d.inCalendar = true ↔ firstDay ≤ d.day ∧ d.day ≤ lastDay := by
  simp [inCalendar]

end Date

/-! ## Instants moved -/

namespace Moment

variable {t u : Moment} {n : Int}

theorem inCalendar_of_checked (h : t.checked = some u) : u.inCalendar = true := by
  have hu := eq_of_checked h
  unfold checked at h
  split at h
  · next ht => rwa [hu]
  · cases h

theorem inCalendar_of_addSeconds? (h : t.addSeconds? n = some u) : u.inCalendar = true :=
  inCalendar_of_checked h

theorem inCalendar_of_addMonths? (ht : t.inCalendar = true) (h : t.addMonths? n = some u) :
    u.inCalendar = true := by
  unfold addMonths? at h
  split at h
  · cases h
    exact ht
  · obtain ⟨d, hd, rfl⟩ := Option.map_eq_some_iff.1 h
    have hdate : Moment.date ⟨d.day * secondsPerDay + t.second % secondsPerDay, t.nano⟩ = d := by
      simp only [date, secondsPerDay]
      congr 1
      omega
    rw [inCalendar, hdate]
    exact Date.inCalendar_of_addMonths? hd

/-! ### The last date -/

/-- The start of the last date of the calendar, in UTC. -/
def lastMidnight : Moment := midnight ⟨Date.lastDay⟩

theorem lastMidnight_lt_iff : lastMidnight < t ↔
    Date.lastDay < t.date.day ∨ Date.lastDay = t.date.day ∧ ¬ (t.secondOfDay = 0 ∧ t.nano = 0) := by
  have hsecond : t.secondOfDay = (t.second % 86400).toNat := rfl
  have hday : t.date.day = t.second / 86400 := rfl
  simp only [lastMidnight, midnight, lt_iff, secondsPerDay, hsecond, hday]
  omega

@[simp] theorem ceilDate?_midnight (d : Date) : (midnight d).ceilDate? = some d := by
  simp [ceilDate?, secondOfDay, midnight, secondsPerDay, date]

/-- No date of the calendar is at or after an instant exactly if the last one has begun. -/
theorem ceilDate?_eq_none_iff (ht : t.inCalendar = true) :
    t.ceilDate? = none ↔ lastMidnight < t := by
  have hin := Date.inCalendar_iff.1 ht
  rw [lastMidnight_lt_iff, ceilDate?]
  split
  · next hzero =>
    simp only [Bool.and_eq_true, decide_eq_true_eq] at hzero
    simp only [reduceCtorEq, hzero, and_self, not_true, and_false, or_false, false_iff]
    omega
  · next hzero =>
    simp only [Bool.and_eq_true, decide_eq_true_eq] at hzero
    have hnext : t.date.succ? = none ↔
        ¬ (Date.firstDay ≤ t.date.day + 1 ∧ t.date.day + 1 ≤ Date.lastDay) := by
      simp [Date.succ?, Date.addDays?, Date.checked, Date.inCalendar_iff]
    rw [hnext]
    omega

end Moment

/-! ## Starts of dates -/

namespace Zone

variable {z : Zone} {d : Date} {m : Instant}

/-- In UTC the start of a date of the calendar is its midnight, and other dates have none. -/
theorem eq_midnight_of_utc (h : utc.midnight d = .ok m) :
    d.inCalendar = true ∧ m = .midnight d := by
  have hdate : (Moment.midnight d).inCalendar = d.inCalendar := by
    rw [Moment.inCalendar, Moment.date_midnight]
  have hlater : ((Moment.midnight d).addSeconds stepSeconds).date = d := by
    have hsecond : ((Moment.midnight d).addSeconds stepSeconds).second = d.day * 86400 + 900 := rfl
    rw [Moment.date, hsecond, Moment.secondsPerDay]
    congr 1
    omega
  cases hd : d.inCalendar with
  | true =>
    refine ⟨rfl, ?_⟩
    simp only [midnight, resolve, searchSteps, search, instant?_utc, Moment.checked, hdate, hd,
      if_true, Except.ok.injEq] at h
    exact h.symm
  | false =>
    -- a quarter of an hour later it is still the same date
    simp [midnight, resolve, searchSteps, search, instant?_utc, Moment.checked, hd,
      Moment.addSeconds?, Moment.inCalendar, hlater] at h

theorem midnight_utc (h : d.inCalendar = true) : utc.midnight d = .ok (.midnight d) := by
  simp [midnight, resolve, searchSteps, search, instant?_utc, Moment.checked, Moment.inCalendar, h]

/-- Clocks are less than a day ahead of UTC or behind it. -/
def IsNear (z : Zone) : Prop := ∀ s, -86400 < z.offsetAt s ∧ z.offsetAt s < 86400

theorem isNear_utc : utc.IsNear := fun s => by simp

theorem offsetFrom_cases (offset : Int) (changes : List Change) (s : Int) :
    offsetFrom offset changes s = offset ∨
      ∃ change ∈ changes, offsetFrom offset changes s = change.offset := by
  induction changes generalizing offset with
  | nil => exact Or.inl rfl
  | cons change rest ih =>
    rw [offsetFrom]
    split
    · exact Or.inl rfl
    · rcases ih change.offset with h | ⟨later, hlater, h⟩
      · exact Or.inr ⟨change, List.mem_cons_self, h⟩
      · exact Or.inr ⟨later, List.mem_cons_of_mem _ hlater, h⟩

/-- It is enough that the offset at the start and those from each change on are less than a day. -/
theorem isNear_of_offsets (hinitial : -86400 < z.initialOffset ∧ z.initialOffset < 86400)
    (hchanges : ∀ change ∈ z.changes, -86400 < change.offset ∧ change.offset < 86400) :
    z.IsNear := by
  intro second
  rcases offsetFrom_cases z.initialOffset z.changes second with h | ⟨change, hchange, h⟩
  · rw [offsetAt, h]
    exact hinitial
  · rw [offsetAt, h]
    exact hchanges change hchange

/-- The start of a date in a zone near UTC comes after the start, in UTC, of the day before. -/
theorem IsNear.lt_second_of_midnight (hnear : z.IsNear) (hz : z.IsOrdered)
    (h : z.midnight d = .ok m) :
    m.inCalendar = true ∧ m.nano = 0 ∧ (d.day - 1) * 86400 < m.second := by
  obtain ⟨q, -, hq, -⟩ := midnight_eq_ok h
  obtain ⟨hnano, hclock, -, hin⟩ := (instant?_eq_some_iff hz).1 hq
  have hoffset := hnear m.second
  have hclock : m.second + z.offsetAt m.second = d.day * 86400 + 900 * q := hclock
  exact ⟨hin, hnano, by omega⟩

end Zone
end RecordFilter
