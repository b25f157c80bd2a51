import RecordFilter.Proofs.Sql.Rendering
import RecordFilter.Proofs.Sql.ClauseReader
import RecordFilter.Proofs.Sql.Subclauses
/-!
# Tests of patterns under another dialect

Whether pattern tests ask to ignore letter case is decided when a clause is built. It shows in these
tests only, and a dialect that cannot ignore letter case writes both kinds alike.

## Main statements

* `Clause.map_withPlainLike_ofTest` — the clauses of a test, with or without letter case.
* `Clause.rendered_withPlainLike` — dialects that write both kinds alike.
-/
namespace RecordFilter.Clause

theorem withPlainLike_join (kind : Connective) (parts : List Clause) :
    (join kind parts).withPlainLike = join kind (parts.map withPlainLike) := by
  cases kind <;> simp [join, withPlainLike, withPlainLikeAll_eq_map]

/-! ## Building -/

@[simp] theorem withPlainLike_orNull (column : Column) (c : Clause) :
    (orNull column c).withPlainLike = orNull column c.withPlainLike := by
  simp [orNull, withPlainLike, withPlainLikeAll]

@[simp] theorem withPlainLike_containsAny (column : Column) (values : List SqlValue) :
    (containsAny column values).withPlainLike = containsAny column values := by
  have hparts : (values.map (Clause.contains column)).map withPlainLike =
      values.map (Clause.contains column) := by
    simp [Function.comp_def, withPlainLike]
  unfold containsAny
  split
  · next c hc =>
    rw [hc] at hparts
    simpa using hparts
  · rw [withPlainLike, withPlainLikeAll_eq_map, hparts]

@[simp] theorem withPlainLike_flags (column : Column) (f : Flags) (negated : Bool) :
    (flags column f negated).withPlainLike = flags column f negated := by
  unfold flags
  dsimp only
  split <;> simp [withPlainLike, withPlainLikeAll]

@[simp] theorem withPlainLike_range (column : Column) (low : Scalar) (high : UpperBound) :
    (range column low high).withPlainLike = range column low high := by
  cases high <;> simp [range, withPlainLike, withPlainLikeAll]

variable {column : Column} {dateOnly : Bool} {w : Window} {c : Clause}

theorem withPlainLike_of_window (h : window column dateOnly w = .ok c) : c.withPlainLike = c := by
  rcases window_cases h with ⟨low, high, -, -, rfl⟩ | ⟨op, v, -, rfl⟩ <;>
    simp [withPlainLike, withPlainLikeAll]

theorem withPlainLike_of_wholeDays (h : wholeDays column dateOnly w = .ok c) :
    c.withPlainLike = c := by
  rcases wholeDays_cases h with ⟨low, high, -, -, rfl⟩ | ⟨op, v, -, rfl⟩ <;> simp [withPlainLike]

/-- The clause of a test with plain tests of patterns is the one that was not to ignore letter
case. -/
theorem map_withPlainLike_ofTest (anyCase dateOnly : Bool) (column : Column) (t : Test) :
    (ofTest anyCase dateOnly column t).map withPlainLike = ofTest false dateOnly column t := by
  have hsame {x : Except ValueError Clause} (h : ∀ c, x = .ok c → c.withPlainLike = c) :
      x.map withPlainLike = x := by
    cases x with
    | error e => rfl
    | ok c => exact congrArg Except.ok (h c rfl)
  cases t with
  | window w => exact hsame fun c hc => withPlainLike_of_window hc
  | wholeDays w => exact hsame fun c hc => withPlainLike_of_wholeDays hc
  | sameText _ negated | equal _ negated | contains _ negated | member _ negated
  | containsAny _ negated =>
    cases negated <;> simp [ofTest, Except.map, withPlainLike]
  | _ => simp [ofTest, Except.map, withPlainLike]

/-! ## Rendering -/

mutual

theorem normal_withPlainLike {d : Dialect} (hd : d.hasILike = false) (c : Clause) :
    normal d c.withPlainLike = normal d c := by
  match c with
  | .compare .. | .member .. | .between .. | .isNull .. | .contains .. => rfl
  | .like .. => simp [withPlainLike, normal, hd]
  | .and parts => simp only [withPlainLike, normal, normalAll_withPlainLikeAll hd parts]
  | .or parts => simp only [withPlainLike, normal, normalAll_withPlainLikeAll hd parts]
  | .not part => simp only [withPlainLike, normal, normal_withPlainLike hd part]

theorem normalAll_withPlainLikeAll {d : Dialect} (hd : d.hasILike = false) (parts : List Clause) :
    normalAll d (withPlainLikeAll parts) = normalAll d parts := by
  match parts with
  | [] => rfl
  | c :: rest =>
    simp only [withPlainLikeAll, normalAll, normal_withPlainLike hd c,
      normalAll_withPlainLikeAll hd rest]

end

/-- A dialect that cannot ignore letter case writes both kinds of pattern tests alike. -/
theorem rendered_withPlainLike {d : Dialect} (hd : d.hasILike = false) (c : Clause) :
    rendered d c.withPlainLike = rendered d c := by
  have hnormal := normal_withPlainLike hd c
  have htext : c.withPlainLike.text d = c.text d := by
    rw [text, text, ← chars_normal, hnormal, chars_normal]
  have hparams : c.withPlainLike.params = c.params := by
    rw [← params_normal d, hnormal, params_normal]
  rw [rendered_eq, rendered_eq, htext, hparams]

end RecordFilter.Clause
