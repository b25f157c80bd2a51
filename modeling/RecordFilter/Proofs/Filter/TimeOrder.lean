import RecordFilter.Filter.Comparator
/-!
# The order of instants and dates

What comparisons accept of two instants or of two dates, and how the order of dates follows that of
the instants at which they start.
-/
namespace RecordFilter

namespace Moment

protected theorem le_refl (t : Moment) : t ≤ t := Or.inr ⟨rfl, Nat.le_refl _⟩

protected theorem le_trans {t u v : Moment} (h : t ≤ u) (h' : u ≤ v) : t ≤ v := by
  simp only [le_iff] at *
  omega

protected theorem lt_of_le_of_lt {t u v : Moment} (h : t ≤ u) (h' : u < v) : t < v := by
  simp only [le_iff, lt_iff] at *
  omega

protected theorem lt_of_lt_of_le {t u v : Moment} (h : t < u) (h' : u ≤ v) : t < v := by
  simp only [le_iff, lt_iff] at *
  omega

theorem accepts_gte_order_iff {t u : Moment} :
    Comparator.gte.accepts (t.order u) = true ↔ u ≤ t := by
  rw [← not_lt, order]
  by_cases h : t < u
  · simp [Comparator.accepts, h]
  · by_cases h' : u < t <;> simp [Comparator.accepts, h, h']

theorem accepts_lt_order_iff {t u : Moment} :
    Comparator.lt.accepts (t.order u) = true ↔ t < u := by
  rw [order]
  by_cases h : t < u
  · simp [Comparator.accepts, h]
  · by_cases h' : u < t <;> simp [Comparator.accepts, h, h']

theorem accepts_lte_order_iff {t u : Moment} :
    Comparator.lte.accepts (t.order u) = true ↔ t ≤ u := by
  rw [← not_lt, order]
  by_cases h : t < u
  · have h' : ¬ u < t := by
      simp only [lt_iff] at *
      omega
    simp [Comparator.accepts, h, h']
  · by_cases h' : u < t <;> simp [Comparator.accepts, h, h']

theorem midnight_le_midnight_iff {d e : Date} : midnight d ≤ midnight e ↔ d ≤ e := by
  simp only [le_iff, Date.le_iff, midnight, secondsPerDay]
  omega

theorem midnight_lt_midnight_iff {d e : Date} : midnight d < midnight e ↔ d < e := by
  simp only [lt_iff, Date.lt_iff, midnight, secondsPerDay]
  omega

/-- The order of two dates is that of their starts. -/
theorem order_midnight (d e : Date) : (midnight d).order (midnight e) = d.order e := by
  simp only [order, Date.order, lt_iff, Date.lt_iff, midnight, secondsPerDay]
  have hlt (a b : Int) : (a * 86400 < b * 86400 ∨ a * 86400 = b * 86400 ∧ 0 < 0) ↔ a < b := by
    omega
  simp only [hlt]

end Moment

namespace Date

variable {d e : Date}

theorem accepts_gte_order_iff : Comparator.gte.accepts (d.order e) = true ↔ e ≤ d := by
  rw [← Moment.order_midnight, Moment.accepts_gte_order_iff, Moment.midnight_le_midnight_iff]

theorem accepts_lt_order_iff : Comparator.lt.accepts (d.order e) = true ↔ d < e := by
  rw [← Moment.order_midnight, Moment.accepts_lt_order_iff, Moment.midnight_lt_midnight_iff]

theorem accepts_lte_order_iff : Comparator.lte.accepts (d.order e) = true ↔ d ≤ e := by
  rw [← Moment.order_midnight, Moment.accepts_lte_order_iff, Moment.midnight_le_midnight_iff]

end Date
end RecordFilter
