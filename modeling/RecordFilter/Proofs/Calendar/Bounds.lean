import RecordFilter.Calendar.Moment
/-!
# Bounds moved to dates and to the millisecond before

An instant that bounds a span of time may be replaced by the first date at or after it where only
dates are compared, and by the millisecond before it where only whole milliseconds are.

## Main statements

* `Moment.le_midnight_iff`, `Moment.midnight_lt_iff` — dates against the first date after a bound.
* `Moment.le_millisecondBefore_iff` — whole milliseconds against the one before a bound.
-/
namespace RecordFilter

theorem Date.day_of_checked {d e : Date} (h : d.checked = some e) : e = d := by
  unfold checked at h
  split at h <;> simp_all

theorem Date.day_of_addDays? {d e : Date} {n : Int} (h : d.addDays? n = some e) :
    e.day = d.day + n := by
  rw [day_of_checked h]

theorem Moment.eq_of_checked {t u : Moment} (h : t.checked = some u) : u = t := by
  unfold checked at h
  split at h <;> simp_all

namespace Moment

variable {t u : Moment} {d e : Date}

/-- An instant is the start of the first date after it, or lies within the day before. -/
theorem ceilDate?_cases (h : t.ceilDate? = some d) :
    (t.second = d.day * 86400 ∧ t.nano = 0) ∨
      ((d.day - 1) * 86400 ≤ t.second ∧ t.second < d.day * 86400 ∧
        ¬ (t.second = (d.day - 1) * 86400 ∧ t.nano = 0)) := by
  have hsecond : t.secondOfDay = (t.second % 86400).toNat := rfl
  have hday : t.date.day = t.second / 86400 := rfl
  unfold ceilDate? at h
  split at h
  · next hzero =>
    simp only [Bool.and_eq_true, decide_eq_true_eq] at hzero
    obtain rfl : t.date = d := by simpa using h
    omega
  · next hzero =>
    simp only [Bool.and_eq_true, decide_eq_true_eq] at hzero
    have := Date.day_of_addDays? h
    omega

/-- A date is at or after an instant exactly if it is at or after the first such date. -/
theorem le_midnight_iff (h : t.ceilDate? = some d) : t ≤ midnight e ↔ d ≤ e := by
  have := ceilDate?_cases h
  simp only [le_iff, Date.le_iff, midnight, secondsPerDay]
  omega

theorem midnight_lt_iff (h : t.ceilDate? = some d) : midnight e < t ↔ e < d := by
  have := not_congr (le_midnight_iff (e := e) h)
  rw [← not_lt, Classical.not_not, Date.le_iff, Int.not_le, ← Date.lt_iff] at this
  exact this

/-- A whole millisecond is before a bound exactly if it is not after the millisecond before it. -/
theorem le_millisecondBefore_iff (ht : t.nano % 1000000 = 0) (hu : u.nano % 1000000 = 0)
    (htl : t.nano < 1000000000) (hul : u.nano < 1000000000) :
    u ≤ t.millisecondBefore ↔ u < t := by
  unfold millisecondBefore
  split <;> simp only [le_iff, lt_iff] <;> omega

end Moment
end RecordFilter
