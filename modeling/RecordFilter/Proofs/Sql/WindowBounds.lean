import RecordFilter.Proofs.Sql.StoredColumns
import RecordFilter.Proofs.Filter.TimeOrder
/-!
# Windows on columns of times

The clause of a window is true of a column exactly if its instant, or the start of its date, is
within the window. The bounds may have been moved: to dates on a column of dates, and to the last
value before the end of a day.

## Main statements

* `Clause.truth_window_iff`, `Clause.truth_wholeDays_iff` — when the clause of a window is true.
-/
namespace RecordFilter

namespace Clause

/-- A test without a window always has a clause. -/
theorem exists_ofTest_of_window?_eq_none {anyCase dateOnly : Bool} {column : Column}
    {test : Test} (h : test.window? = none) :
    ∃ c, ofTest anyCase dateOnly column test = .ok c := by
  cases test with
  | sameText _ negated | equal _ negated | contains _ negated | member _ negated
  | containsAny _ negated => cases negated <;> exact ⟨_, rfl⟩
  | window w | wholeDays w => cases h
  | _ => exact ⟨_, rfl⟩

variable {dateOnly : Bool} {s : Scalar} {t u : Instant} {b : SqlValue}

/-- A time of such a column is a date, with the instant at which it starts, or an instant. -/
theorem time_cases (hk : s.kind = timeKind dateOnly) (hs : s.instant? = some u) :
    (dateOnly = true ∧ ∃ d, s = .date d ∧ u = .midnight d) ∨
      (dateOnly = false ∧ s = .timestamp u) := by
  cases dateOnly with
  | true =>
    cases s <;> simp [timeKind, Scalar.kind] at hk
    exact Or.inl ⟨rfl, _, rfl, by simpa [Scalar.instant?] using hs.symm⟩
  | false =>
    cases s <;> simp [timeKind, Scalar.kind] at hk
    exact Or.inr ⟨rfl, by simpa [Scalar.instant?] using hs⟩

/-- A bound on a column of dates is the first date that is not before it. -/
theorem bound_cases (h : bound dateOnly t = .ok b) :
    (dateOnly = true ∧ ∃ d, t.ceilDate? = some d ∧ b = .date d) ∨
      (dateOnly = false ∧ b = .timestamp t) := by
  cases dateOnly with
  | true =>
    simp only [bound, if_true, Results.exceptMap_eq_ok] at h
    obtain ⟨d, hd, rfl⟩ := h
    exact Or.inl ⟨rfl, d, Results.inRange_eq_ok hd, rfl⟩
  | false =>
    cases h
    exact Or.inr ⟨rfl, rfl⟩

theorem compares_gte_bound_iff (hk : s.kind = timeKind dateOnly) (hs : s.instant? = some u)
    (h : bound dateOnly t = .ok b) :
    compares .gte (.value (value s)) b = some true ↔ t ≤ u := by
  rcases time_cases hk hs with ⟨rfl, e, rfl, rfl⟩ | ⟨rfl, rfl⟩
  · obtain ⟨-, d, hd, rfl⟩ | ⟨hfalse, -⟩ := bound_cases h
    · simp [compares, value, SqlValue.compare?, Date.accepts_gte_order_iff,
        Moment.le_midnight_iff hd]
    · cases hfalse
  · obtain ⟨htrue, -⟩ | ⟨-, rfl⟩ := bound_cases h
    · cases htrue
    · simp [compares, value, SqlValue.compare?, Moment.accepts_gte_order_iff]

theorem compares_lt_bound_iff (hk : s.kind = timeKind dateOnly) (hs : s.instant? = some u)
    (h : bound dateOnly t = .ok b) :
    compares .lt (.value (value s)) b = some true ↔ u < t := by
  rcases time_cases hk hs with ⟨rfl, e, rfl, rfl⟩ | ⟨rfl, rfl⟩
  · obtain ⟨-, d, hd, rfl⟩ | ⟨hfalse, -⟩ := bound_cases h
    · simp [compares, value, SqlValue.compare?, Date.accepts_lt_order_iff,
        Moment.midnight_lt_iff hd]
    · cases hfalse
  · obtain ⟨htrue, -⟩ | ⟨-, rfl⟩ := bound_cases h
    · cases htrue
    · simp [compares, value, SqlValue.compare?, Moment.accepts_lt_order_iff]

/-- A whole millisecond is before a bound if it is not after the value before it. -/
theorem compares_lte_lastBefore_iff (hk : s.kind = timeKind dateOnly) (hs : s.instant? = some u)
    (hu : u.IsWhole) (ht : t.IsWhole) (h : lastBefore dateOnly t = .ok b) :
    compares .lte (.value (value s)) b = some true ↔ u < t := by
  rcases time_cases hk hs with ⟨rfl, e, rfl, rfl⟩ | ⟨rfl, rfl⟩
  · simp only [lastBefore, if_true, Results.exceptMap_eq_ok] at h
    obtain ⟨d, hd, rfl⟩ := h
    obtain ⟨first, hfirst, hlast⟩ := Option.bind_eq_some_iff.1 (Results.inRange_eq_ok hd)
    have hday := Date.day_of_addDays? hlast
    simp only [compares, value, SqlValue.compare?, Option.map_some, Option.some.injEq,
      Date.accepts_lte_order_iff, Moment.midnight_lt_iff hfirst, Date.le_iff, Date.lt_iff]
    omega
  · simp only [lastBefore, Bool.false_eq_true, if_false, Results.exceptMap_eq_ok] at h
    obtain ⟨m, hm, rfl⟩ := h
    obtain rfl := Moment.eq_of_checked (Results.inRange_eq_ok hm)
    simp only [compares, value, SqlValue.compare?, Option.map_some, Option.some.injEq,
      Moment.accepts_lte_order_iff]
    exact Moment.le_millisecondBefore_iff ht.1 hu.1 ht.nano_lt hu.nano_lt

variable {same : Char → Char → Bool} {row : Row} {column : Column} {w : Window} {c : Clause}

theorem truth_window_iff (hrow : row column = .value (value s)) (hk : s.kind = timeKind dateOnly)
    (hs : s.instant? = some u) (h : window column dateOnly w = .ok c) :
    c.truth same row = some true ↔ w.Contains u := by
  cases w <;> simp only [window, Results.bind_eq_ok, Results.pure_eq_ok] at h
  case between start finish =>
    obtain ⟨low, hlow, high, hhigh, rfl⟩ := h
    rw [truth_and_iff]
    simp [truth, hrow, compares_gte_bound_iff hk hs hlow, compares_lt_bound_iff hk hs hhigh,
      Window.Contains]
  case since start =>
    obtain ⟨low, hlow, rfl⟩ := h
    simp [truth, hrow, compares_gte_bound_iff hk hs hlow, Window.Contains]
  case before finish =>
    obtain ⟨high, hhigh, rfl⟩ := h
    simp [truth, hrow, compares_lt_bound_iff hk hs hhigh, Window.Contains]

theorem truth_wholeDays_iff (hrow : row column = .value (value s))
    (hk : s.kind = timeKind dateOnly) (hs : s.instant? = some u) (hu : u.IsWhole)
    (hw : ∀ b ∈ w.finish?, Moment.IsWhole b) (h : wholeDays column dateOnly w = .ok c) :
    c.truth same row = some true ↔ w.Contains u := by
  cases w <;> simp only [wholeDays, Results.bind_eq_ok, Results.pure_eq_ok] at h
  case between start finish =>
    obtain ⟨low, hlow, high, hhigh, rfl⟩ := h
    simp [truth, hrow, compares_gte_bound_iff hk hs hlow,
      compares_lte_lastBefore_iff hk hs hu (hw _ rfl) hhigh, Window.Contains]
  case since start =>
    obtain ⟨low, hlow, rfl⟩ := h
    simp [truth, hrow, compares_gte_bound_iff hk hs hlow, Window.Contains]
  case before finish =>
    obtain ⟨high, hhigh, rfl⟩ := h
    simp [truth, hrow, compares_lte_lastBefore_iff hk hs hu (hw _ rfl) hhigh, Window.Contains]

/-- Without a value in the column, the clause of a window is not true. -/
theorem truth_window_null (hrow : row column = .null) (h : window column dateOnly w = .ok c) :
    c.truth same row ≠ some true := by
  cases w <;> simp only [window, Results.bind_eq_ok, Results.pure_eq_ok] at h
  case between start finish =>
    obtain ⟨low, -, high, -, rfl⟩ := h
    rw [Ne, truth_and_iff]
    simp [truth, hrow, compares]
  case since start =>
    obtain ⟨low, -, rfl⟩ := h
    simp [truth, hrow, compares]
  case before finish =>
    obtain ⟨high, -, rfl⟩ := h
    simp [truth, hrow, compares]

theorem truth_wholeDays_null (hrow : row column = .null)
    (h : wholeDays column dateOnly w = .ok c) : c.truth same row ≠ some true := by
  cases w <;> simp only [wholeDays, Results.bind_eq_ok, Results.pure_eq_ok] at h
  case between start finish =>
    obtain ⟨low, -, high, -, rfl⟩ := h
    simp [truth, hrow, compares]
  case since start =>
    obtain ⟨low, -, rfl⟩ := h
    simp [truth, hrow, compares]
  case before finish =>
    obtain ⟨high, -, rfl⟩ := h
    simp [truth, hrow, compares]

end Clause
end RecordFilter
