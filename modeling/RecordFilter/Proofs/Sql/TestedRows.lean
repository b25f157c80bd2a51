import RecordFilter.Proofs.Sql.WindowBounds
/-!
# Tests of rows

The clause that asks a test is true exactly of the rows in which the field meets the test. A column
without a value and a column with one are told apart first: without a value a clause is true only
if it asks for that, and with one the simple clauses decide what they mean.

## Main statements

* `Clause.truth_ofTest_iff` — the rows that a test selects.
-/
namespace RecordFilter.Clause

variable {same : Char → Char → Bool} {row : Row} {column : Column} {v : Option Value}
  {k : ScalarKind} {s : Scalar} {ss : List Scalar}

theorem cell_eq_null_iff : Value.cell v = .null ↔ v = none := by
  rcases v with - | (s | ss) <;> simp [Value.cell]

/-- A clause is unknown of a column without a value, where what it asks does not hold, and decides
what it asks where there is a value. -/
structure Asks (same : Char → Char → Bool) (row : Row) (column : Column) (c : Clause)
    (p : Prop) : Prop where
  unknown : row column = .null → c.truth same row = none ∧ ¬ p
  decides : row column ≠ .null → (c.truth same row).Decides p

namespace Asks

variable {c c' : Clause} {p : Prop}

theorem truth_iff (h : Asks same row column c p) : c.truth same row = some true ↔ p := by
  by_cases hnull : row column = .null
  · obtain ⟨hc, hp⟩ := h.unknown hnull
    simp [hc, hp]
  · exact (h.decides hnull).eq_true_iff

/-- The opposite of such a clause is true where there is a value of which it does not hold. -/
theorem truth_not_iff (h : Asks same row column c p)
    (hc : c'.truth same row = (c.truth same row).not) :
    c'.truth same row = some true ↔ row column ≠ .null ∧ ¬ p := by
  rw [hc]
  by_cases hnull : row column = .null
  · obtain ⟨hc, hp⟩ := h.unknown hnull
    simp [hc, hnull, Truth.not]
  · simpa [hnull] using (h.decides hnull).not.eq_true_iff

/-- With no value accepted as well, it is true wherever the clause does not hold. -/
theorem orNull_iff (h : Asks same row column c p)
    (hc : c'.truth same row = (c.truth same row).not) :
    (orNull column c').truth same row = some true ↔ ¬ p := by
  rw [truth_orNull_iff, h.truth_not_iff hc]
  by_cases hnull : row column = .null
  · simp [hnull, (h.unknown hnull).2]
  · simp [hnull]

/-- Either way round: the clause itself, or its opposite with no value accepted as well. -/
theorem negatable_iff {c₀ : Clause} {negated : Bool} (h : Asks same row column c p)
    (opposite : Clause) (hopposite : opposite.truth same row = (c.truth same row).not)
    (hc₀ : c₀ = if negated then orNull column opposite else c) :
    c₀.truth same row = some true ↔ (p ↔ negated = false) := by
  subst hc₀
  cases negated with
  | false => simpa using h.truth_iff
  | true => simpa using h.orNull_iff hopposite

end Asks

/-! ## Simple clauses -/

theorem compares_ne (cell : Cell) (b : SqlValue) :
    compares .ne cell b = (compares .eq cell b).not := by
  cases cell with
  | value w =>
    simp only [compares, Truth.not, Option.map_map]
    congr 1
    funext o
    cases o <;> rfl
  | _ => rfl

theorem asks_compare (hrow : row column = Value.cell v)
    (hone : v = none ∨ ∃ w, v = some (.scalar w)) (hv : Value.AreStored k v) (hk : s.kind = k)
    (hs : s.IsStored) (c : Comparator) :
    Asks same row column (.compare column c (value s)) (∃ w ∈ Value.members v, w.Compares c s) := by
  rcases hone with rfl | ⟨w, rfl⟩
  · exact ⟨by simp [truth, hrow, Value.cell, compares, Value.members], by simp [hrow, Value.cell]⟩
  · obtain ⟨hwk, hws⟩ := hv w (by simp [Value.members])
    refine ⟨by simp [hrow, Value.cell], fun _ => ?_⟩
    rw [truth, hrow]
    exact (compares_decides hws hs (hwk.trans hk.symm) c).congr (by simp [Value.members])

theorem memberTruth_null {vs : List SqlValue} (h : vs ≠ []) : memberTruth vs .null = none := by
  induction vs with
  | nil => exact absurd rfl h
  | cons v vs ih =>
    have hcons : memberTruth (v :: vs) .null = Truth.or none (memberTruth vs .null) := rfl
    cases vs with
    | nil => rfl
    | cons v' vs =>
      rw [hcons, ih (by simp)]
      rfl

theorem asks_member (hrow : row column = Value.cell v)
    (hone : v = none ∨ ∃ w, v = some (.scalar w)) (hv : Value.AreStored k v)
    (hss : ∀ s ∈ ss, s.IsStored ∧ s.kind = k) (hne : ss ≠ []) :
    Asks same row column (.member column (ss.map value) false) (Value.IsAmong ss v) := by
  rcases hone with rfl | ⟨w, rfl⟩
  · refine ⟨fun _ => ⟨?_, by simp [Value.IsAmong, Value.members]⟩, by simp [hrow, Value.cell]⟩
    simp [truth, hrow, Value.cell, memberTruth_null, hne]
  · obtain ⟨hwk, hws⟩ := hv w (by simp [Value.members])
    refine ⟨by simp [hrow, Value.cell], fun _ => ?_⟩
    rw [truth, hrow]
    exact (memberTruth_decides hws fun s hs => ⟨(hss s hs).1, hwk.trans (hss s hs).2.symm⟩).congr
      (by simp [Value.IsAmong, Value.members])

theorem asks_like (hrow : row column = Value.cell v)
    (hv : v = none ∨ ∃ s, v = some (.scalar (.text s))) (anyCase : Bool) (anchor : Anchor)
    (text : String) :
    Asks same row column (.like column anyCase (patternOf anchor text) false)
      (Value.HasText (if anyCase then same else (· == ·)) anchor text v) := by
  rcases hv with rfl | ⟨s, rfl⟩
  · refine ⟨fun _ => ⟨?_, by simp [Value.HasText]⟩, by simp [hrow, Value.cell]⟩
    simp [truth, hrow, Value.cell, likeTruth]
  · refine ⟨by simp [hrow, Value.cell], fun _ => ?_⟩
    rw [truth, hrow]
    exact (likeTruth_decides _ anchor text s).congr (by simp [Value.HasText])

theorem truthOfSome_contains_null (hrow : row column = .null) {vs : List SqlValue} (h : vs ≠ []) :
    truthOfSome same row (vs.map (Clause.contains column)) = none := by
  induction vs with
  | nil => exact absurd rfl h
  | cons v vs ih =>
    have hfirst : (Clause.contains column v).truth same row = none := by
      rw [truth, hrow]
      rfl
    cases vs with
    | nil => simp [truthOfSome, hfirst]
    | cons v' vs =>
      have hrest := ih (by simp)
      simp only [List.map_cons, truthOfSome] at hrest ⊢
      rw [hfirst, hrest]
      rfl

theorem asks_containsAny (hrow : row column = Value.cell v)
    (hlist : v = none ∨ ∃ ws, v = some (.list ws)) (hv : Value.AreStored k v)
    (hss : ∀ s ∈ ss, s.IsStored ∧ s.kind = k) (hne : ss ≠ []) :
    Asks same row column (containsAny column (ss.map value)) (Value.IsAmong ss v) := by
  rcases hlist with rfl | ⟨ws, rfl⟩
  · refine ⟨fun _ => ⟨?_, by simp [Value.IsAmong, Value.members]⟩, by simp [hrow, Value.cell]⟩
    rw [truth_containsAny, truthOfSome_contains_null hrow (by simpa using hne)]
  · refine ⟨by simp [hrow, Value.cell], fun _ => ?_⟩
    refine (containsAny_decides hrow fun s hs => ⟨(hss s hs).1, fun w hw => ?_⟩).congr Iff.rfl
    obtain ⟨hwk, hws⟩ := hv w hw
    exact ⟨hws, hwk.trans (hss s hs).2.symm⟩

/-! ## Flags and ranges -/

theorem memberTruth_flagValues_decides (f : Flags) (b : Bool) :
    (memberTruth (flagValues f) (.value (.bool b))).Decides
      (f.Covers (some (.scalar (.bool b)))) := by
  rcases f with ⟨_ | _, _ | _⟩ <;> cases b <;> exact ⟨_, rfl, by simp [Flags.Covers]⟩

theorem truth_flags_iff (hrow : row column = Value.cell v)
    (hv : v = none ∨ ∃ b, v = some (.scalar (.bool b))) (f : Flags) (negated : Bool) :
    (flags column f negated).truth same row = some true ↔ (f.Covers v ↔ negated = false) := by
  rcases hv with rfl | ⟨b, rfl⟩
  · have hmember (vs : List SqlValue) : memberTruth vs .null ≠ some true := by
      cases vs with
      | nil => simp [memberTruth]
      | cons v vs => simp [memberTruth_null]
    cases hf : f.wantsFalse <;> cases negated <;>
      simp [flags, hf, truth_orNull_iff, truthOfEach_eq_true_iff, truth, hrow, Value.cell,
        Flags.Covers, hmember]
  · have hset := memberTruth_flagValues_decides f b
    cases hf : f.wantsFalse <;> cases negated <;>
      simp [flags, hf, truth_orNull_iff, truthOfEach_eq_true_iff, truth, hrow, Value.cell,
        value, hset.eq_true_iff, hset.not.eq_true_iff]

theorem truth_range_iff {low : Scalar} {high : UpperBound} (hrow : row column = Value.cell v)
    (hone : v = none ∨ ∃ w, v = some (.scalar w)) (hv : Value.AreStored k v)
    (hlow : low.IsStored ∧ low.kind = k) (hhigh : high.scalar.IsStored ∧ high.scalar.kind = k) :
    (range column low high).truth same row = some true ↔
      (∃ w ∈ Value.members v, w.Compares .gte low) ∧
        ∃ w ∈ Value.members v, w.Compares high.comparator high.scalar := by
  have hasks (s : Scalar) (c : Comparator) (hs : s.IsStored ∧ s.kind = k) :
      Asks same row column (.compare column c (value s))
        (∃ w ∈ Value.members v, w.Compares c s) := asks_compare hrow hone hv hs.2 hs.1 c
  rw [← (hasks low .gte hlow).truth_iff, ← (hasks high.scalar high.comparator hhigh).truth_iff]
  cases high with
  | inclusive s => simp [range, truth, UpperBound.scalar, UpperBound.comparator]
  | exclusive s =>
    rw [range, truth_and_iff]
    simp [UpperBound.scalar, UpperBound.comparator]

/-! ## Tests -/

/-- A row is selected by the clause of a test exactly if the field meets the test. -/
theorem truth_ofTest_iff {t : Test} {a : Attribute} {c : Clause} {anyCase : Bool}
    (hrow : row column = Value.cell v) (ha : a.Allows v) (ht : t.Fits a) (hs : t.IsStored)
    (h : ofTest anyCase a.isDateOnly column t = .ok c) :
    c.truth same row = some true ↔ t.Holds (if anyCase then same else (· == ·)) v := by
  have hv := ha.areStored
  have hstored {s : Scalar} (h : s ∈ t.scalars) : s.IsStored ∧ s.kind = a.scalarKind :=
    ⟨hs.scalars s h, ht.kinds s h⟩
  have hsuits := ht.suits
  have hbounds := hs.bounds
  cases t with
  | compare c s =>
    cases h
    obtain ⟨hsl, hsk⟩ := hstored (s := s) (by simp [Test.scalars])
    exact (asks_compare hrow (ha.eq_scalar (a.kind_of_isOrdered hsuits)) hv hsk hsl _).truth_iff
  | pattern anchor text negated =>
    cases h
    have hasks : Asks same row column (.like column anyCase (patternOf anchor text) false)
        (Value.HasText (if anyCase then same else (· == ·)) anchor text v) :=
      asks_like hrow (ha.eq_text hsuits) anyCase anchor text
    cases negated with
    | false => exact hasks.truth_iff
    | true =>
      rw [hasks.truth_not_iff (by simp [truth]), hrow, Ne, cell_eq_null_iff]
      rfl
  | sameText text negated =>
    have htext : a.isText = true := by
      cases a <;> simp_all [Test.suits, Attribute.kind, Attribute.isText]
    refine (asks_like hrow (ha.eq_text htext) anyCase .whole text).negatable_iff
      (.like column anyCase (patternOf .whole text) true) (by simp [truth]) ?_
    cases negated <;> cases h <;> rfl
  | equal s negated =>
    obtain ⟨hsl, hsk⟩ := hstored (s := s) (by simp [Test.scalars])
    have hasks : Asks same row column (.compare column .eq (value s)) (Value.IsAmong [s] v) := by
      simpa [Value.IsAmong] using
        asks_compare hrow (ha.eq_scalar (by simpa [Test.suits] using hsuits)) hv hsk hsl .eq
    refine hasks.negatable_iff (.compare column .ne (value s)) (by simp [truth, compares_ne]) ?_
    cases negated <;> cases h <;> rfl
  | contains s negated =>
    have hasks : Asks same row column (.contains column (value s)) (Value.IsAmong [s] v) :=
      asks_containsAny hrow (ha.eq_list (by simpa [Test.suits] using hsuits)) hv
        (fun s hs => hstored hs) (List.cons_ne_nil _ _)
    refine hasks.negatable_iff _ (truth_not _) ?_
    cases negated <;> cases h <;> rfl
  | isNull negated =>
    cases h
    rw [truth_isNull_iff, hrow, cell_eq_null_iff]
    rfl
  | member ss negated =>
    simp only [Test.suits, Bool.and_eq_true, decide_eq_true_eq] at hsuits
    have hasks : Asks same row column (.member column (ss.map value) false) (Value.IsAmong ss v) :=
      asks_member hrow (ha.eq_scalar hsuits.1) hv (fun s hs => hstored hs) (by simpa using hsuits.2)
    refine hasks.negatable_iff (.member column (ss.map value) true) (by simp [truth]) ?_
    cases negated <;> cases h <;> rfl
  | containsAny ss negated =>
    simp only [Test.suits, Bool.and_eq_true, decide_eq_true_eq] at hsuits
    have hasks : Asks same row column (containsAny column (ss.map value)) (Value.IsAmong ss v) :=
      asks_containsAny hrow (ha.eq_list hsuits.1) hv (fun s hs => hstored hs)
        (by simpa using hsuits.2)
    refine hasks.negatable_iff _ (truth_not _) ?_
    cases negated <;> cases h <;> rfl
  | flags f negated =>
    cases h
    exact truth_flags_iff hrow (ha.eq_bool (by simpa [Test.suits] using hsuits)) f negated
  | range low high =>
    cases h
    exact truth_range_iff hrow (ha.eq_scalar (a.kind_of_isOrdered hsuits)) hv
      (hstored (by simp [Test.scalars])) (hstored (by simp [Test.scalars]))
  | window w =>
    rcases ha.eq_time hsuits with rfl | ⟨s, u, rfl, hk, hu, -⟩
    · simpa [Test.Holds, Value.IsWithin, Value.members] using truth_window_null hrow h
    · simpa [Test.Holds, Value.IsWithin, Value.members, hu] using truth_window_iff hrow hk hu h
  | wholeDays w =>
    rcases ha.eq_time hsuits with rfl | ⟨s, u, rfl, hk, hu, hstored⟩
    · simpa [Test.Holds, Value.IsWithin, Value.members] using truth_wholeDays_null hrow h
    · have hfinish : ∀ b ∈ w.finish?, Moment.IsWhole b := fun b hb =>
        (hbounds b (by simp_all [Test.bounds, Test.window?])).isWhole
      simpa [Test.Holds, Value.IsWithin, Value.members, hu] using
        truth_wholeDays_iff hrow hk hu hstored.isWhole hfinish h

end RecordFilter.Clause
