import RecordFilter.Sql.Clause
/-!
# Normal clauses

Different clauses may have the same text: a part that is joined to nothing stands for itself, and a
dialect without a test that ignores letter case writes the plain one. The normal form of a clause
takes these choices away. An *and* of nothing is true and an *or* of nothing is false; both are kept
as they are.

## Main definitions

* `Clause.normal` — the normal form of a clause in a dialect.
* `Clause.withPlainLike` — a clause whose tests of patterns leave the letter case to the database.
-/
namespace RecordFilter.Clause

/-- Parts joined, unless there is one part alone. -/
def joinOrSingle (connect : List Clause → Clause) : List Clause → Clause
  | [c] => c
  | parts => connect parts

mutual

def normal (d : Dialect) : Clause → Clause
  | .like column anyCase pattern negated => .like column (anyCase && d.hasILike) pattern negated
  | .and parts => joinOrSingle .and (normalAll d parts)
  | .or parts => joinOrSingle .or (normalAll d parts)
  | .not part => .not (normal d part)
  | leaf => leaf

def normalAll (d : Dialect) : List Clause → List Clause
  | [] => []
  | c :: rest => normal d c :: normalAll d rest

end

mutual

def withPlainLike : Clause → Clause
  | .like column _ pattern negated => .like column false pattern negated
  | .and parts => .and (withPlainLikeAll parts)
  | .or parts => .or (withPlainLikeAll parts)
  | .not part => .not (withPlainLike part)
  | leaf => leaf

def withPlainLikeAll : List Clause → List Clause
  | [] => []
  | c :: rest => withPlainLike c :: withPlainLikeAll rest

end

theorem withPlainLikeAll_eq_map (parts : List Clause) :
    withPlainLikeAll parts = parts.map withPlainLike := by
  induction parts with
  | nil => rfl
  | cons c rest ih => simp [withPlainLikeAll, ih]

@[simp] theorem joinOrSingle_singleton (connect : List Clause → Clause) (c : Clause) :
    joinOrSingle connect [c] = c := rfl

end RecordFilter.Clause
