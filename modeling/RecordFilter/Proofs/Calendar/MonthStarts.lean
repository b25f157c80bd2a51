import Mathlib.Order.Monotone.Basic
import Mathlib.Tactic.IntervalCases
import RecordFilter.Proofs.Calendar.CalendarLimits
import RecordFilter.Proofs.Calendar.CivilDates
/-!
# Where months start

Months are numbered from January of year 0 on. The first days of months follow each other at the
distance of the days of the month, so every date lies in one month, and a valid place in the
calendar is that of its date. Years and fiscal years begin with every twelfth of these days.

## Main definitions

* `Date.monthStart` — the first day of the month of a number.
* `Date.monthNumber` — the number of the month of a date.

## Main statements

* `Date.monthStart_lt_monthStart_iff`, `Date.monthStart_mono` — months in order.
* `Date.monthStart_monthNumber_le`, `Date.lt_monthStart_monthNumber` — the month of a date.
* `Date.civil_dayNumber` — the place of the date of a place.
* `Date.addMonths?_monthStart` — moving the first day of a month.
* `Date.monthStart_within` — months of the years in use lie far within the calendar.
-/
namespace RecordFilter

namespace Civil

theorem le_daysInMonth (year : Int) (month : Nat) : 28 ≤ daysInMonth year month := by
  unfold daysInMonth
  grind

theorem isValid_iff {c : Civil} : c.isValid = true ↔
    (1 ≤ c.month ∧ c.month ≤ 12) ∧ 1 ≤ c.day ∧ c.day ≤ daysInMonth c.year c.month := by
  simp [isValid, and_assoc]

end Civil

namespace Date

variable {d e : Date} {year n k : Int} {m : Nat} {c : Civil}

/-! ## Months in order -/

/-- The first of March comes after the days of January and February. -/
theorem daysBefore_eq (year : Int) :
    daysBefore year = daysBefore (year - 1) + 337 + Civil.daysInMonth year 2 := by
  unfold daysBefore
  by_cases h : Civil.isLeapYear year = true
  · have hdays : Civil.daysInMonth year 2 = 29 := if_pos h
    have hleap := (isLeapYear_iff year).1 h
    omega
  · have hdays : Civil.daysInMonth year 2 = 28 := if_neg h
    have hcommon := mt (isLeapYear_iff year).2 h
    omega

/-- The first day of the month of that number, January of year 0 being number 0. -/
def monthStart (k : Int) : Date := ⟨dayNumber ⟨k / 12, (k % 12 + 1).toNat, 1⟩⟩

/-- The number of the month of a date. -/
def monthNumber (d : Date) : Int := d.civil.year * 12 + (d.civil.month - 1)

theorem monthStart_eq (h₀ : 1 ≤ m) (h₁ : m ≤ 12) (year : Int) :
    monthStart (year * 12 + (m - 1)) = ⟨dayNumber ⟨year, m, 1⟩⟩ := by
  have hyear : (year * 12 + ((m : Int) - 1)) / 12 = year := by omega
  have hmonth : ((year * 12 + ((m : Int) - 1)) % 12 + 1).toNat = m := by omega
  rw [monthStart, hyear, hmonth]

/-- Every number is that of a month of a year. -/
theorem exists_month (k : Int) :
    ∃ (year : Int) (m : Nat), 1 ≤ m ∧ m ≤ 12 ∧ k = year * 12 + (m - 1) :=
  ⟨k / 12, (k % 12 + 1).toNat, by omega, by omega, by omega⟩

/-- The first day of a month in January or February, and in a later month. -/
theorem dayNumber_start_cases (year : Int) (m : Nat) :
    (m ≤ 2 ∧ dayNumber ⟨year, m, 1⟩ =
        daysBefore (year - 1) + (153 * ((m : Int) + 9) + 2) / 5 - 719468) ∨
      2 < m ∧ dayNumber ⟨year, m, 1⟩ =
        daysBefore year + (153 * ((m : Int) - 3) + 2) / 5 - 719468 := by
  rcases Nat.lt_or_ge 2 m with hm | hm
  · right
    refine ⟨hm, ?_⟩
    rw [dayNumber_of_lt_month hm]
    dsimp only
    omega
  · left
    refine ⟨hm, ?_⟩
    rw [dayNumber_of_month_le hm]
    dsimp only
    omega

/-- A month is as long as the distance to the next one. -/
theorem dayNumber_next_month (h₀ : 1 ≤ m) (h₁ : m < 12) (year : Int) :
    dayNumber ⟨year, m + 1, 1⟩ = dayNumber ⟨year, m, 1⟩ + Civil.daysInMonth year m := by
  have hthis := dayNumber_start_cases year m
  have hnext := dayNumber_start_cases year (m + 1)
  have hmarch := daysBefore_eq year
  -- February is as long as its year tells, every other month as the table does
  by_cases hfebruary : m = 2
  · subst hfebruary
    omega
  · interval_cases m <;> simp only [Civil.daysInMonth] at * <;> omega

theorem day_monthStart_succ (k : Int) :
    (monthStart (k + 1)).day =
      (monthStart k).day + Civil.daysInMonth (k / 12) (k % 12 + 1).toNat := by
  obtain ⟨year, m, h₀, h₁, rfl⟩ := exists_month k
  have hyear : (year * 12 + ((m : Int) - 1)) / 12 = year := by omega
  have hmonth : ((year * 12 + ((m : Int) - 1)) % 12 + 1).toNat = m := by omega
  rw [hyear, hmonth, monthStart_eq h₀ h₁]
  rcases Nat.lt_or_eq_of_le h₁ with hm | rfl
  · have hnext : year * 12 + ((m : Int) - 1) + 1 = year * 12 + ((m + 1 : Nat) - 1) := by omega
    rw [hnext, monthStart_eq (by omega) hm]
    exact dayNumber_next_month h₀ hm year
  · have hnext : year * 12 + (((12 : Nat) : Int) - 1) + 1 = (year + 1) * 12 + ((1 : Nat) - 1) := by
      omega
    have hdecember := dayNumber_start_cases year 12
    have hjanuary := dayNumber_start_cases (year + 1) 1
    have hdays : Civil.daysInMonth year 12 = 31 := rfl
    rw [hnext, monthStart_eq (by omega) (by omega)]
    rw [Int.add_sub_cancel] at hjanuary
    dsimp only
    omega

theorem monthStart_lt_monthStart_iff {k j : Int} : monthStart k < monthStart j ↔ k < j := by
  have hmono : StrictMono fun k => (monthStart k).day := strictMono_int_of_lt_succ fun k => by
    have hdays := Civil.le_daysInMonth (k / 12) (k % 12 + 1).toNat
    rw [day_monthStart_succ]
    omega
  exact hmono.lt_iff_lt

theorem monthStart_mono {k j : Int} (h : k ≤ j) : monthStart k ≤ monthStart j :=
  Int.not_lt.1 (mt monthStart_lt_monthStart_iff.1 (Int.not_lt.2 h))

/-! ## The month of a date -/

/-- The date of a valid place comes so many days after the first day of the month. -/
theorem dayNumber_eq (h : c.isValid = true) :
    dayNumber c = (monthStart (c.year * 12 + (c.month - 1))).day + (c.day - 1) := by
  obtain ⟨⟨h₀, h₁⟩, -⟩ := Civil.isValid_iff.1 h
  rw [monthStart_eq h₀ h₁]
  by_cases hm : c.month ≤ 2
  · rw [dayNumber_of_month_le hm, dayNumber_of_month_le (by exact hm)]
    dsimp only
    omega
  · rw [dayNumber_of_lt_month (by omega), dayNumber_of_lt_month (by dsimp only; omega)]
    dsimp only
    omega

/-- The date of a valid place lies in the month of the place. -/
theorem monthStart_le_dayNumber (h : c.isValid = true) :
    (monthStart (c.year * 12 + (c.month - 1))).day ≤ dayNumber c ∧
      dayNumber c < (monthStart (c.year * 12 + (c.month - 1) + 1)).day := by
  obtain ⟨⟨h₀, h₁⟩, hfirst, hlast⟩ := Civil.isValid_iff.1 h
  have hyear : (c.year * 12 + ((c.month : Int) - 1)) / 12 = c.year := by omega
  have hmonth : ((c.year * 12 + ((c.month : Int) - 1)) % 12 + 1).toNat = c.month := by omega
  rw [dayNumber_eq h, day_monthStart_succ, hyear, hmonth]
  omega

theorem monthStart_monthNumber_le (d : Date) : monthStart d.monthNumber ≤ d := by
  have h := monthStart_le_dayNumber (isValid_civil d)
  rw [dayNumber_civil] at h
  exact h.1

theorem lt_monthStart_monthNumber (d : Date) : d < monthStart (d.monthNumber + 1) := by
  have h := monthStart_le_dayNumber (isValid_civil d)
  rw [dayNumber_civil] at h
  exact h.2

/-- Months do not overlap. -/
theorem monthNumber_eq_of_mem (h₀ : monthStart k ≤ d) (h₁ : d < monthStart (k + 1)) :
    d.monthNumber = k := by
  have hafter : monthStart d.monthNumber < monthStart (k + 1) := by
    have := monthStart_monthNumber_le d
    simp only [lt_iff, le_iff] at *
    omega
  have hbefore : monthStart k < monthStart (d.monthNumber + 1) := by
    have := lt_monthStart_monthNumber d
    simp only [lt_iff, le_iff] at *
    omega
  rw [monthStart_lt_monthStart_iff] at hafter hbefore
  omega

@[simp] theorem monthNumber_monthStart (k : Int) : (monthStart k).monthNumber = k :=
  monthNumber_eq_of_mem (Int.le_refl _) (monthStart_lt_monthStart_iff.2 (by omega))

/-- The place of the date of a valid place is that place. -/
theorem civil_dayNumber (h : c.isValid = true) : civil ⟨dayNumber c⟩ = c := by
  have hmonth : monthNumber ⟨dayNumber c⟩ = c.year * 12 + (c.month - 1) :=
    monthNumber_eq_of_mem (monthStart_le_dayNumber h).1 (monthStart_le_dayNumber h).2
  have hday : dayNumber (civil ⟨dayNumber c⟩) = dayNumber c := dayNumber_civil _
  have hvalid := isValid_civil ⟨dayNumber c⟩
  rw [monthNumber] at hmonth
  generalize civil ⟨dayNumber c⟩ = found at *
  rw [dayNumber_eq hvalid, dayNumber_eq h, hmonth] at hday
  obtain ⟨⟨h₀, h₁⟩, hfirst, -⟩ := Civil.isValid_iff.1 h
  obtain ⟨⟨h₀', h₁'⟩, hfirst', -⟩ := Civil.isValid_iff.1 hvalid
  cases found
  cases c
  simp only [Civil.mk.injEq] at *
  omega

theorem civil_monthStart (h₀ : 1 ≤ m) (h₁ : m ≤ 12) (year : Int) :
    (monthStart (year * 12 + (m - 1))).civil = ⟨year, m, 1⟩ := by
  have hlength := Civil.le_daysInMonth year m
  rw [monthStart_eq h₀ h₁, civil_dayNumber (Civil.isValid_iff.2 (by dsimp only; omega))]

/-- The first days of months are the starts of months. -/
theorem day_eq_one_iff : d.civil.day = 1 ↔ d = monthStart d.monthNumber := by
  have hday := dayNumber_eq (isValid_civil d)
  obtain ⟨-, hfirst, -⟩ := Civil.isValid_iff.1 (isValid_civil d)
  rw [dayNumber_civil] at hday
  constructor
  · intro hone
    have hsame : d.day = (monthStart d.monthNumber).day := by
      rw [monthNumber]
      omega
    exact congrArg Date.mk hsame
  · intro hstart
    have hsame := congrArg Date.day hstart
    rw [monthNumber] at hsame
    omega

/-- The first day of a month of the calendar, by year and month. -/
theorem ofCivil?_one (h : ofCivil? year m 1 = some d) : d = monthStart (year * 12 + (m - 1)) := by
  obtain ⟨-, -, hvalid, rfl⟩ := ofCivil?_eq_some h
  obtain ⟨⟨h₀, h₁⟩, -⟩ := Civil.isValid_iff.1 hvalid
  rw [monthStart_eq h₀ h₁]

/-- The first day of a month is moved to that of another month. -/
theorem addMonths?_monthStart (h : (monthStart k).addMonths? n = some d) :
    d = monthStart (k + n) := by
  obtain ⟨year, m, h₀, h₁, rfl⟩ := exists_month k
  have hlength := Civil.le_daysInMonth ((year * 12 + ((m : Int) - 1) + n) / 12)
    ((year * 12 + ((m : Int) - 1) + n) % 12 + 1).toNat
  simp only [addMonths?, civil_monthStart h₀ h₁] at h
  rw [Nat.min_eq_left (by omega)] at h
  rw [ofCivil?_one h]
  congr 1
  omega

/-! ## Far from the ends of the calendar -/

theorem addDays?_eq_some (h : e.day = d.day + n) (h₀ : firstDay ≤ e.day) (h₁ : e.day ≤ lastDay) :
    d.addDays? n = some e := by
  cases e
  subst h
  exact if_pos (inCalendar_iff.2 ⟨h₀, h₁⟩)

theorem ofCivil?_one_eq (h : firstYear ≤ year) (h' : year ≤ lastYear) (h₀ : 1 ≤ m)
    (h₁ : m ≤ 12) : ofCivil? year m 1 = some (monthStart (year * 12 + (m - 1))) := by
  have hlength := Civil.le_daysInMonth year m
  have hvalid : Civil.isValid ⟨year, m, 1⟩ = true :=
    Civil.isValid_iff.2 ⟨⟨h₀, h₁⟩, Nat.le_refl 1, by dsimp only; omega⟩
  simp [ofCivil?, h, h', hvalid, monthStart_eq h₀ h₁]

theorem addMonths?_monthStart_eq (h : firstYear * 12 ≤ k + n) (h' : k + n < lastYear * 12) :
    (monthStart k).addMonths? n = some (monthStart (k + n)) := by
  obtain ⟨year, m, h₀, h₁, rfl⟩ := exists_month k
  have hlength := Civil.le_daysInMonth ((year * 12 + ((m : Int) - 1) + n) / 12)
    ((year * 12 + ((m : Int) - 1) + n) % 12 + 1).toNat
  simp only [addMonths?, civil_monthStart h₀ h₁]
  rw [Nat.min_eq_left (by omega), ofCivil?_one_eq (by omega) (by omega) (by omega) (by omega)]
  congr 2
  omega

/-- A date of a year lies between the ends of any years around it. -/
theorem day_bounds_of_year {first last : Int} (h : first ≤ d.civil.year)
    (h' : d.civil.year ≤ last) :
    dayNumber ⟨first, 1, 1⟩ ≤ d.day ∧ d.day ≤ dayNumber ⟨last, 12, 31⟩ := by
  have hge := dayNumber_ge (isValid_civil d) h
  have hle := dayNumber_le (isValid_civil d) h'
  rw [dayNumber_civil] at hge hle
  exact ⟨hge, hle⟩

/-- A date between the ends of years lies in one of them. -/
theorem year_bounds_of_day {first last : Int} (h : dayNumber ⟨first - 1, 12, 31⟩ < d.day)
    (h' : d.day < dayNumber ⟨last + 1, 1, 1⟩) : first ≤ d.civil.year ∧ d.civil.year ≤ last := by
  constructor
  · by_contra hlt
    have hbefore : dayNumber d.civil ≤ dayNumber ⟨first - 1, 12, 31⟩ :=
      dayNumber_le (isValid_civil d) (by omega)
    rw [dayNumber_civil] at hbefore
    omega
  · by_contra hlt
    have hafter : dayNumber ⟨last + 1, 1, 1⟩ ≤ dayNumber d.civil :=
      dayNumber_ge (isValid_civil d) (by omega)
    rw [dayNumber_civil] at hafter
    omega

theorem monthStart_within (h : -60 ≤ k) (h' : k ≤ 120120) :
    firstDay < (monthStart k).day ∧ (monthStart k).day < lastDay := by
  have hlow : (monthStart (-60)).day = -721354 := by decide +kernel
  have hhigh : (monthStart 120120).day = 2936550 := by decide +kernel
  have hge := monthStart_mono h
  have hle := monthStart_mono h'
  simp only [le_iff, firstDay, lastDay] at *
  omega

end Date
end RecordFilter
