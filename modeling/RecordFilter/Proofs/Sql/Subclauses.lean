import RecordFilter.Sql.Clause
import RecordFilter.Proofs.Results
/-!
# The clauses within a clause

Clauses that satisfy a property at every place, and the clauses that windows become: two bounds or
one, each a date or a timestamp as the column has it.

## Main definitions

* `Clause.subclauses` — a clause and the clauses within it.
* `SqlValue.IsTime` — dates for columns of dates, timestamps for the others.

## Main statements

* `Clause.window_cases`, `Clause.wholeDays_cases` — the clauses of windows.
-/
namespace RecordFilter

/-- What a column of times holds: dates only, or timestamps. -/
inductive SqlValue.IsTime : (dateOnly : Bool) → SqlValue → Prop
  | date (d : Date) : IsTime true (.date d)
  | timestamp (t : Instant) : IsTime false (.timestamp t)

namespace Clause

mutual

/-- The clause and the clauses within it. -/
def subclauses : Clause → List Clause
  | .and parts => .and parts :: subclausesAll parts
  | .or parts => .or parts :: subclausesAll parts
  | .not part => .not part :: subclauses part
  | leaf => [leaf]

def subclausesAll : List Clause → List Clause
  | [] => []
  | c :: rest => subclauses c ++ subclausesAll rest

end

theorem subclausesAll_eq_flatMap (parts : List Clause) :
    subclausesAll parts = parts.flatMap subclauses := by
  induction parts with
  | nil => simp [subclausesAll]
  | cons c rest ih => simp [subclausesAll, ih]

/-- Every clause within the clause satisfies the property. -/
def Each (P : Clause → Prop) (c : Clause) : Prop := ∀ s ∈ c.subclauses, P s

variable {P : Clause → Prop} {column : Column} {c : Clause} {dateOnly : Bool} {w : Window}

@[simp] theorem each_and {parts : List Clause} :
    (Clause.and parts).Each P ↔ P (.and parts) ∧ ∀ part ∈ parts, part.Each P := by
  simp only [Each, subclauses, subclausesAll_eq_flatMap, List.forall_mem_cons,
    List.forall_mem_flatMap]

@[simp] theorem each_or {parts : List Clause} :
    (Clause.or parts).Each P ↔ P (.or parts) ∧ ∀ part ∈ parts, part.Each P := by
  simp only [Each, subclauses, subclausesAll_eq_flatMap, List.forall_mem_cons,
    List.forall_mem_flatMap]

@[simp] theorem each_not : (Clause.not c).Each P ↔ P (.not c) ∧ c.Each P := by
  simp only [Each, subclauses, List.forall_mem_cons]

theorem each_leaf (h : c.subclauses = [c]) : c.Each P ↔ P c := by
  simp only [Each, h, List.forall_mem_singleton]

@[simp] theorem each_orNull : (orNull column c).Each P ↔
    P (orNull column c) ∧ P (.isNull column false) ∧ c.Each P := by
  have hnull : (Clause.isNull column false).Each P ↔ P (.isNull column false) := each_leaf rfl
  simp [orNull, hnull]

/-! ## Clauses of windows -/

theorem isTime_bound {t : Instant} {v : SqlValue} (h : bound dateOnly t = .ok v) :
    v.IsTime dateOnly := by
  cases dateOnly <;> simp only [bound, if_true, if_false, Bool.false_eq_true] at h
  · cases h
    exact .timestamp t
  · obtain ⟨d, -, rfl⟩ := Results.exceptMap_eq_ok.1 h
    exact .date d

theorem isTime_lastBefore {t : Instant} {v : SqlValue} (h : lastBefore dateOnly t = .ok v) :
    v.IsTime dateOnly := by
  cases dateOnly <;> simp only [lastBefore, if_true, if_false, Bool.false_eq_true] at h
  · obtain ⟨t, -, rfl⟩ := Results.exceptMap_eq_ok.1 h
    exact .timestamp t
  · obtain ⟨d, -, rfl⟩ := Results.exceptMap_eq_ok.1 h
    exact .date d

/-- The clause of a window compares the column with one bound or with two of them. -/
theorem window_cases (h : window column dateOnly w = .ok c) :
    (∃ low high, low.IsTime dateOnly ∧ high.IsTime dateOnly ∧
        c = .and [.compare column .gte low, .compare column .lt high]) ∨
      ∃ op v, v.IsTime dateOnly ∧ c = .compare column op v := by
  cases w <;> simp only [window, Results.bind_eq_ok, Results.pure_eq_ok] at h
  case between start finish =>
    obtain ⟨low, hlow, high, hhigh, rfl⟩ := h
    exact Or.inl ⟨low, high, isTime_bound hlow, isTime_bound hhigh, rfl⟩
  case since start =>
    obtain ⟨v, hv, rfl⟩ := h
    exact Or.inr ⟨.gte, v, isTime_bound hv, rfl⟩
  case before finish =>
    obtain ⟨v, hv, rfl⟩ := h
    exact Or.inr ⟨.lt, v, isTime_bound hv, rfl⟩

theorem wholeDays_cases (h : wholeDays column dateOnly w = .ok c) :
    (∃ low high, low.IsTime dateOnly ∧ high.IsTime dateOnly ∧ c = .between column low high) ∨
      ∃ op v, v.IsTime dateOnly ∧ c = .compare column op v := by
  cases w <;> simp only [wholeDays, Results.bind_eq_ok, Results.pure_eq_ok] at h
  case between start finish =>
    obtain ⟨low, hlow, high, hhigh, rfl⟩ := h
    exact Or.inl ⟨low, high, isTime_bound hlow, isTime_lastBefore hhigh, rfl⟩
  case since start =>
    obtain ⟨v, hv, rfl⟩ := h
    exact Or.inr ⟨.gte, v, isTime_bound hv, rfl⟩
  case before finish =>
    obtain ⟨v, hv, rfl⟩ := h
    exact Or.inr ⟨.lte, v, isTime_lastBefore hv, rfl⟩

end Clause
end RecordFilter
