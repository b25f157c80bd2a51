import RecordFilter.Calendar.Date
/-!
# Dates and their places in the calendar

The place of a date in the calendar exists, and the date is found again by it. A day of a cycle of
400 years is split into whole centuries, whole cycles of four years, whole years and the days left;
every day of the cycle has such parts, and the formulas of `Date.civil` and `Date.dayNumber` are
plain sums of them.

## Main statements

* `Date.isValid_civil` — the month and the day of a date exist.
* `Date.dayNumber_civil`, `Date.ofCivil?_civil` — a date is the one of its place.
-/
namespace RecordFilter.Date

/-- The centuries, cycles of four years, years and days of which a day of a cycle consists. Only a
leap year, the last one of its four and not of most centuries, has a day 365. -/
structure IsSplit (n a p r s : Int) : Prop where
  sum : n = 36524 * a + 1461 * p + 365 * r + s
  centuries : 0 ≤ a ∧ a ≤ 3
  fours : 0 ≤ p ∧ p ≤ 24
  years : 0 ≤ r ∧ r ≤ 3
  days : 0 ≤ s ∧ s ≤ 365
  leap : s = 365 → r = 3 ∧ (p ≤ 23 ∨ a = 3)

theorem exists_isSplit {n : Int} (h0 : 0 ≤ n) (h1 : n < 146097) :
    ∃ a p r s, IsSplit n a p r s := by
  let a := min (n / 36524) 3
  let b := n - 36524 * a
  let p := b / 1461
  let q := b - 1461 * p
  let r := min (q / 365) 3
  refine ⟨a, p, r, q - 365 * r, ?_⟩
  constructor <;> omega

variable {n a p r s : Int}

theorem IsSplit.yearOfCycle_eq (h : IsSplit n a p r s) :
    (n - n / 1460 + n / 36524 - n / 146096) / 365 = 100 * a + 4 * p + r := by
  obtain ⟨hsum, ⟨_, _⟩, ⟨_, _⟩, ⟨_, _⟩, ⟨_, _⟩, hleap⟩ := h
  by_cases hlast : n = 146096
  · omega
  · have h1 : n / 36524 = a := by omega
    have h2 : n / 146096 = 0 := by omega
    have h3 : n / 1460 = 25 * a + p + (24 * a + p + 365 * r + s) / 1460 := by omega
    rw [h1, h2, h3]
    omega

theorem IsSplit.dayOfYear_eq (h : IsSplit n a p r s) :
    n - (365 * (100 * a + 4 * p + r) + (100 * a + 4 * p + r) / 4 - (100 * a + 4 * p + r) / 100) =
      s := by
  obtain ⟨hsum, ⟨_, _⟩, ⟨_, _⟩, ⟨_, _⟩, ⟨_, _⟩, hleap⟩ := h
  omega

/-- The place of day `s`, counted from March, of a year counted in the same way. -/
def placeOf (year s : Int) : Civil :=
  let month := (5 * s + 2) / 153
  let day := s - (153 * month + 2) / 5 + 1
  if month < 10 then ⟨year, (month + 3).toNat, day.toNat⟩
  else ⟨year + 1, (month - 9).toNat, day.toNat⟩

theorem civil_eq_placeOf (d : Date) (h : IsSplit ((d.day + 719468) % 146097) a p r s) :
    d.civil = placeOf (100 * a + 4 * p + r + (d.day + 719468) / 146097 * 400) s := by
  simp only [civil, placeOf, h.yearOfCycle_eq, h.dayOfYear_eq]

/-- Every date has such a place, with the parts of its day of the cycle. -/
theorem exists_civil_eq_placeOf (d : Date) :
    ∃ a p r s, IsSplit ((d.day + 719468) % 146097) a p r s ∧
      d.civil = placeOf (100 * a + 4 * p + r + (d.day + 719468) / 146097 * 400) s := by
  obtain ⟨a, p, r, s, h⟩ := exists_isSplit (n := (d.day + 719468) % 146097) (by omega) (by omega)
  exact ⟨a, p, r, s, h, civil_eq_placeOf d h⟩

theorem isLeapYear_iff (year : Int) :
    Civil.isLeapYear year = true ↔ year % 4 = 0 ∧ (year % 100 ≠ 0 ∨ year % 400 = 0) := by
  simp [Civil.isLeapYear]

/-- February, in which day 337 begins the last month of a year counted from March. -/
theorem isValid_february {year : Int} {day : Nat} (h0 : 1 ≤ day)
    (h1 : day ≤ 28 ∨ (day = 29 ∧ Civil.isLeapYear year = true)) :
    Civil.isValid ⟨year, 2, day⟩ = true := by
  simp only [Civil.isValid, Civil.daysInMonth, Bool.and_eq_true, decide_eq_true_eq]
  refine ⟨⟨⟨by omega, by omega⟩, h0⟩, ?_⟩
  rcases h1 with h1 | ⟨h1, hleap⟩
  · split <;> omega
  · rw [if_pos hleap]
    omega

theorem IsSplit.isValid_placeOf (h : IsSplit n a p r s) (era : Int) :
    (placeOf (100 * a + 4 * p + r + era * 400) s).isValid = true := by
  obtain ⟨_, ⟨_, _⟩, ⟨_, _⟩, ⟨_, _⟩, ⟨_, _⟩, hleap⟩ := h
  have hm : 0 ≤ (5 * s + 2) / 153 ∧ (5 * s + 2) / 153 ≤ 11 := by omega
  generalize hmonth : (5 * s + 2) / 153 = month at hm
  by_cases hfeb : month = 11
  · subst hfeb
    simp only [placeOf, hmonth]
    apply isValid_february (by omega)
    by_cases h365 : s = 365
    · obtain ⟨hr, hc⟩ := hleap h365
      refine Or.inr ⟨by omega, (isLeapYear_iff _).2 ⟨by omega, ?_⟩⟩
      omega
    · exact Or.inl (by omega)
  · have : month = 0 ∨ month = 1 ∨ month = 2 ∨ month = 3 ∨ month = 4 ∨ month = 5 ∨ month = 6 ∨
        month = 7 ∨ month = 8 ∨ month = 9 ∨ month = 10 := by omega
    rcases this with h | h | h | h | h | h | h | h | h | h | h <;> subst h <;>
      simp [placeOf, hmonth, Civil.isValid, Civil.daysInMonth] <;> omega

theorem isValid_civil (d : Date) : d.civil.isValid = true := by
  obtain ⟨a, p, r, s, h, hd⟩ := exists_civil_eq_placeOf d
  rw [hd]
  exact h.isValid_placeOf _

theorem IsSplit.dayNumber_placeOf (h : IsSplit n a p r s) (era : Int) :
    dayNumber (placeOf (100 * a + 4 * p + r + era * 400) s) = era * 146097 + n - 719468 := by
  obtain ⟨hsum, ⟨_, _⟩, ⟨_, _⟩, ⟨_, _⟩, ⟨_, _⟩, hleap⟩ := h
  simp only [placeOf]
  split
  · simp only [dayNumber]
    rw [if_neg (by omega), if_neg (by omega)]
    omega
  · simp only [dayNumber]
    rw [if_pos (by omega), if_pos (by omega)]
    omega

/-- A date is found again by its place. -/
theorem dayNumber_civil (d : Date) : dayNumber d.civil = d.day := by
  obtain ⟨a, p, r, s, h, hd⟩ := exists_civil_eq_placeOf d
  rw [hd, h.dayNumber_placeOf]
  omega

theorem ofCivil?_civil (d : Date) (h0 : firstYear ≤ d.civil.year) (h1 : d.civil.year ≤ lastYear) :
    ofCivil? d.civil.year d.civil.month d.civil.day = some d := by
  have hplace : (⟨d.civil.year, d.civil.month, d.civil.day⟩ : Civil) = d.civil := rfl
  simp [ofCivil?, h0, h1, hplace, isValid_civil, dayNumber_civil]

end RecordFilter.Date
