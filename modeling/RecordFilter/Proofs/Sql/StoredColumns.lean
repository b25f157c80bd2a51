import RecordFilter.Proofs.Filter.TestMeaning
import RecordFilter.Proofs.Calendar.Bounds
import RecordFilter.Proofs.Text.PlainPatterns
import RecordFilter.Proofs.Sql.TruthValues
/-!
# What clauses say of stored columns

The simple clauses, on a column that holds the value of a field: comparisons, patterns, membership
and the bounds of windows. A clause that is true says what it means of a value that is there.

## Main statements

* `Clause.value_compare?` — stored values are in the order of their columns.
* `Clause.compares_decides`, `Clause.likeTruth_decides` — when simple clauses are true.
-/
namespace RecordFilter

theorem Number.order?_int (a b : Int) : (int a).order? (int b) = some (compare a b) := by
  have hcast (x y : Int) : ((x : Rat) < (y : Rat)) = (x < y) := propext Rat.intCast_lt_intCast
  simp only [order?, toRat?, hcast]
  congr 1
  rcases Int.lt_trichotomy a b with h | h | h
  · rw [if_pos h, Int.compare_eq_lt.2 h]
  · subst h
    simp
  · rw [if_neg (by omega), if_pos h, Int.compare_eq_gt.2 h]

namespace Clause

variable {s t : Scalar}

/-- Two values of one kind are in the order of what columns hold. -/
theorem value_compare? (hs : s.IsStored) (ht : t.IsStored) (h : s.kind = t.kind) :
    (value s).compare? (value t) = s.compare? t := by
  cases s <;> cases t <;> first | rfl | cases h
  next m n =>
    cases m with
    | float x =>
      cases n with
      | float y => rfl
      | int b =>
        have hb : fitsInt64 b = true := ht
        simp [value, Number.toInt64?, hb, SqlValue.compare?, Scalar.compare?, Number.toBinary64]
    | int a =>
      have ha : fitsInt64 a = true := hs
      cases n with
      | float y =>
        simp [value, Number.toInt64?, ha, SqlValue.compare?, Scalar.compare?, Number.toBinary64]
      | int b =>
        have hb : fitsInt64 b = true := ht
        simp [value, Number.toInt64?, ha, hb, SqlValue.compare?, Scalar.compare?, Number.order?_int]

/-- Stored values of one kind are in order. -/
theorem exists_compare? (hs : s.IsStored) (ht : t.IsStored) (h : s.kind = t.kind) :
    ∃ o, s.compare? t = some o := by
  have hrat {n : Number} (hn : n.IsStored) : ∃ x, n.toRat? = some x := by
    cases n with
    | int z => exact ⟨_, rfl⟩
    | float x =>
      cases x with
      | finite => exact ⟨_, rfl⟩
      | _ => cases hn
  cases s <;> cases t <;> first | exact ⟨_, rfl⟩ | cases h
  next m n =>
    obtain ⟨x, hx⟩ := hrat hs
    obtain ⟨y, hy⟩ := hrat ht
    simp [Scalar.compare?, Number.order?, hx, hy]

/-! ## Columns with a value -/

theorem compares_decides (hs : s.IsStored) (ht : t.IsStored) (h : s.kind = t.kind)
    (c : Comparator) : (compares c (.value (value s)) (value t)).Decides (s.Compares c t) := by
  obtain ⟨o, ho⟩ := exists_compare? hs ht h
  exact ⟨c.accepts o, by simp [compares, value_compare? hs ht h, ho], by simp [Scalar.Compares, ho]⟩

theorem memberTruth_decides {ts : List Scalar} (hs : s.IsStored)
    (ht : ∀ t ∈ ts, t.IsStored ∧ s.kind = t.kind) :
    (memberTruth (ts.map value) (.value (value s))).Decides (∃ t ∈ ts, s.Compares .eq t) := by
  induction ts with
  | nil => exact ⟨false, rfl, by simp⟩
  | cons t ts ih =>
    obtain ⟨htl, htk⟩ := ht t List.mem_cons_self
    have hrest := ih fun u hu => ht u (List.mem_cons_of_mem _ hu)
    exact ((compares_decides hs htl htk .eq).or hrest).congr (by simp)

theorem likeTruth_decides (same : Char → Char → Bool) (anchor : Anchor) (text s : String) :
    (likeTruth same (patternOf anchor text) (.value (.text s))).Decides
      (Text.Occurs same anchor.atStart anchor.atEnd text.toList s.toList) := by
  refine ⟨_, ?_, Text.likeAccepts_likeParts_iff _ _ _ _⟩
  simp [likeTruth, patternOf, Text.readLike?_likePattern]

/-! ## Columns with several values -/

variable {ss : List Scalar}

theorem containsTruth_decides (hs : ∀ s ∈ ss, s.IsStored ∧ s.kind = t.kind) (ht : t.IsStored) :
    (containsTruth (value t) (.array (ss.map value))).Decides (∃ s ∈ ss, s.Compares .eq t) := by
  refine ⟨_, rfl, ?_⟩
  rw [List.any_map, List.any_eq_true]
  refine exists_congr fun s => and_congr_right fun hmem => ?_
  obtain ⟨hsl, hsk⟩ := hs s hmem
  simp [value_compare? hsl ht hsk, Scalar.Compares, Comparator.accepts]

/-- Containing one of the values is a choice, also where there is one value alone. -/
theorem truth_containsAny (same : Char → Char → Bool) (row : Row) (column : Column)
    (vs : List SqlValue) :
    (containsAny column vs).truth same row =
      truthOfSome same row (vs.map (Clause.contains column)) := by
  unfold containsAny
  split
  · next c hc => rw [hc, truthOfSome_singleton]
  · rw [truth]

theorem containsAny_decides {same : Char → Char → Bool} {row : Row} {column : Column}
    {ts : List Scalar} (hrow : row column = .array (ss.map value))
    (hst : ∀ t ∈ ts, t.IsStored ∧ ∀ s ∈ ss, s.IsStored ∧ s.kind = t.kind) :
    ((containsAny column (ts.map value)).truth same row).Decides
      (∃ t ∈ ts, ∃ s ∈ ss, s.Compares .eq t) := by
  rw [truth_containsAny]
  induction ts with
  | nil => exact ⟨false, rfl, by simp⟩
  | cons t ts ih =>
    obtain ⟨htl, hss⟩ := hst t List.mem_cons_self
    have hrest := ih fun u hu => hst u (List.mem_cons_of_mem _ hu)
    have hfirst := containsTruth_decides hss htl
    rw [← hrow] at hfirst
    exact (hfirst.or hrest).congr (by simp)

end Clause
end RecordFilter
