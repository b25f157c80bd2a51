import RecordFilter.Proofs.Filter.TestValues
import RecordFilter.Proofs.Sql.Subclauses
/-!
# Clauses without empty parts

Joined clauses have two parts or more, and lists of values are not empty. So is the clause of every
test that has members, and joining such clauses gives one again.

## Main definitions

* `Clause.IsProper` — a clause that is not joined of too few parts or a membership without members.

## Main statements

* `Clause.proper_ofTest` — the clauses of a test.
* `Clause.proper_join` — clauses joined.
-/
namespace RecordFilter.Clause

/-- The clause itself joins several parts, or lists a value, if it joins or lists at all. -/
def IsProper : Clause → Prop
  | .and parts => 2 ≤ parts.length
  | .or parts => 2 ≤ parts.length
  | .member _ values _ => values ≠ []
  | _ => True

variable {column : Column} {c : Clause} {values : List SqlValue} {dateOnly : Bool} {w : Window}

theorem proper_join {kind : Connective} {parts : List Clause} (hlength : 2 ≤ parts.length)
    (h : ∀ part ∈ parts, part.Each IsProper) : (join kind parts).Each IsProper := by
  cases kind with
  | and => exact each_and.2 ⟨hlength, h⟩
  | or => exact each_or.2 ⟨hlength, h⟩

theorem proper_both {c' : Clause} (h : c.Each IsProper) (h' : c'.Each IsProper) :
    (Clause.and [c, c']).Each IsProper :=
  each_and.2 ⟨Nat.le_refl 2, by simpa using ⟨h, h'⟩⟩

theorem proper_orNull (h : c.Each IsProper) : (orNull column c).Each IsProper :=
  each_orNull.2 ⟨Nat.le_refl 2, trivial, h⟩

theorem proper_compare (op : Comparator) (v : SqlValue) :
    (Clause.compare column op v).Each IsProper := (each_leaf rfl).2 trivial

theorem proper_isNull (negated : Bool) : (Clause.isNull column negated).Each IsProper :=
  (each_leaf rfl).2 trivial

theorem proper_like (anyCase : Bool) (pattern : String) (negated : Bool) :
    (Clause.like column anyCase pattern negated).Each IsProper := (each_leaf rfl).2 trivial

theorem proper_contains (v : SqlValue) : (Clause.contains column v).Each IsProper :=
  (each_leaf rfl).2 trivial

theorem proper_not (h : c.Each IsProper) : (Clause.not c).Each IsProper := each_not.2 ⟨trivial, h⟩

theorem proper_member (negated : Bool) (h : values ≠ []) :
    (Clause.member column values negated).Each IsProper := (each_leaf rfl).2 h

/-- A single value is looked for by itself, several of them by alternatives. -/
theorem proper_containsAny (h : values ≠ []) : (containsAny column values).Each IsProper := by
  match values with
  | [] => exact absurd rfl h
  | [v] => exact proper_contains v
  | v :: v' :: rest =>
    refine each_or.2 ⟨by simp [IsProper], fun part hpart => ?_⟩
    obtain ⟨u, -, rfl⟩ : ∃ u ∈ v :: v' :: rest, .contains column u = part := List.mem_map.1 hpart
    exact proper_contains u

theorem flagValues_ne_nil {f : Flags} (h : f ≠ ⟨false, false⟩) : flagValues f ≠ [] := by
  rcases f with ⟨_ | _, _ | _⟩ <;> simp_all [flagValues]

theorem proper_flags {f : Flags} (negated : Bool) (h : f ≠ ⟨false, false⟩) :
    (flags column f negated).Each IsProper := by
  have hset : (Clause.member column (flagValues f) negated).Each IsProper :=
    proper_member negated (flagValues_ne_nil h)
  unfold flags
  dsimp only
  split
  · exact proper_orNull hset
  · exact hset
  · exact proper_both hset (proper_isNull true)
  · exact proper_orNull hset

theorem proper_range (low : Scalar) (high : UpperBound) :
    (range column low high).Each IsProper := by
  cases high with
  | inclusive high => exact (each_leaf rfl).2 trivial
  | exclusive high => exact proper_both (proper_compare _ _) (proper_compare _ _)

theorem proper_window (h : window column dateOnly w = .ok c) : c.Each IsProper := by
  rcases window_cases h with ⟨low, high, -, -, rfl⟩ | ⟨op, v, -, rfl⟩
  · exact proper_both (proper_compare _ _) (proper_compare _ _)
  · exact proper_compare op v

theorem proper_wholeDays (h : wholeDays column dateOnly w = .ok c) : c.Each IsProper := by
  rcases wholeDays_cases h with ⟨low, high, -, -, rfl⟩ | ⟨op, v, -, rfl⟩
  · exact (each_leaf rfl).2 trivial
  · exact proper_compare op v

/-- The clause of a test that has members has no empty part. -/
theorem proper_ofTest {anyCase : Bool} {t : Test} (ht : t.HasMembers)
    (h : ofTest anyCase dateOnly column t = .ok c) : c.Each IsProper := by
  have hvalues {ss : List Scalar} (hss : ss ≠ []) : ss.map value ≠ [] := by simpa using hss
  cases t with
  | compare op s =>
    cases h
    exact proper_compare _ _
  | pattern anchor text negated =>
    cases h
    exact proper_like _ _ _
  | sameText text negated =>
    cases negated <;> cases h
    · exact proper_like _ _ _
    · exact proper_orNull (proper_like _ _ _)
  | equal s negated =>
    cases negated <;> cases h
    · exact proper_compare _ _
    · exact proper_orNull (proper_compare _ _)
  | contains s negated =>
    cases negated <;> cases h
    · exact proper_contains _
    · exact proper_orNull (proper_not (proper_contains _))
  | isNull negated =>
    cases h
    exact proper_isNull negated
  | member ss negated =>
    cases negated <;> cases h
    · exact proper_member false (hvalues ht)
    · exact proper_orNull (proper_member true (hvalues ht))
  | containsAny ss negated =>
    cases negated <;> cases h
    · exact proper_containsAny (hvalues ht)
    · exact proper_orNull (proper_not (proper_containsAny (hvalues ht)))
  | flags f negated =>
    cases h
    exact proper_flags negated ht
  | range low high =>
    cases h
    exact proper_range low high
  | window w => exact proper_window h
  | wholeDays w => exact proper_wholeDays h

end RecordFilter.Clause
