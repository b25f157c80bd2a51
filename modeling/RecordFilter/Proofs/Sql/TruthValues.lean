import RecordFilter.Sql.Evaluation
/-!
# Truth values of clauses

A truth value that is known decides a proposition, and connectives decide what they combine. Where
only the selected rows count, an *and* is true if all its parts are and an *or* if one of them is,
whether or not other parts are unknown.

## Main definitions

* `Truth.Decides` — a truth value that says whether a proposition holds.

## Main statements

* `Clause.truth_and_iff`, `Clause.truth_or_iff` — when joined clauses are true.
-/
namespace RecordFilter

/-- The truth value is known, and says whether a proposition holds. -/
def Truth.Decides (t : Truth) (p : Prop) : Prop := ∃ b, t = some b ∧ (b = true ↔ p)

namespace Truth

variable {s t : Truth} {p q : Prop}

theorem Decides.eq_true_iff (h : t.Decides p) : t = some true ↔ p := by
  obtain ⟨b, rfl, hb⟩ := h
  simpa using hb

theorem Decides.not (h : t.Decides p) : t.not.Decides ¬ p := by
  obtain ⟨b, rfl, hb⟩ := h
  refine ⟨!b, rfl, ?_⟩
  rw [← hb]
  cases b <;> simp

theorem Decides.or (hs : s.Decides p) (ht : t.Decides q) : (s.or t).Decides (p ∨ q) := by
  obtain ⟨a, rfl, ha⟩ := hs
  obtain ⟨b, rfl, hb⟩ := ht
  refine ⟨a || b, ?_, by simp [ha, hb]⟩
  cases a <;> cases b <;> rfl

theorem Decides.congr (h : t.Decides p) (hpq : p ↔ q) : t.Decides q := by
  obtain ⟨b, rfl, hb⟩ := h
  exact ⟨b, rfl, hb.trans hpq⟩

@[simp] theorem or_false (t : Truth) : t.or (some false) = t := by
  rcases t with - | - | - <;> rfl

end Truth

namespace Clause

variable {same : Char → Char → Bool} {row : Row}

theorem truthOfEach_eq_true_iff (parts : List Clause) :
    truthOfEach same row parts = some true ↔ ∀ c ∈ parts, c.truth same row = some true := by
  induction parts with
  | nil => simp [truthOfEach]
  | cons c rest ih => simp [truthOfEach, ih]

theorem truthOfSome_eq_true_iff (parts : List Clause) :
    truthOfSome same row parts = some true ↔ ∃ c ∈ parts, c.truth same row = some true := by
  induction parts with
  | nil => simp [truthOfSome]
  | cons c rest ih => simp [truthOfSome, ih]

theorem truthOfSome_singleton (c : Clause) : truthOfSome same row [c] = c.truth same row := by
  simp [truthOfSome]

theorem truth_and_iff (parts : List Clause) :
    (Clause.and parts).truth same row = some true ↔
      ∀ c ∈ parts, c.truth same row = some true := by
  rw [truth, truthOfEach_eq_true_iff]

theorem truth_or_iff (parts : List Clause) :
    (Clause.or parts).truth same row = some true ↔
      ∃ c ∈ parts, c.truth same row = some true := by
  rw [truth, truthOfSome_eq_true_iff]

theorem truth_not (c : Clause) :
    (Clause.not c).truth same row = (c.truth same row).not := by
  rw [truth]

theorem truth_isNull_iff (column : Column) (negated : Bool) :
    (Clause.isNull column negated).truth same row = some true ↔
      (row column = .null ↔ negated = false) := by
  rw [truth]
  by_cases h : row column = .null <;> cases negated <;> simp [h]

/-- A clause that also accepts no value. -/
theorem truth_orNull_iff (column : Column) (c : Clause) :
    (orNull column c).truth same row = some true ↔
      row column = .null ∨ c.truth same row = some true := by
  simp [orNull, truth_or_iff, truth_isNull_iff]

end Clause
end RecordFilter
