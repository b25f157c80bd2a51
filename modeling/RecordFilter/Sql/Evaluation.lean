import RecordFilter.Sql.Clause
import RecordFilter.Text.Matching
/-!
# Which rows a clause selects

A clause is true, false or, where it depends on a column without a value, unknown; only a clause
that is true selects a row.

## Main definitions

* `Truth` — the three truth values, with their connectives.
* `Row` — the values of the columns.
* `Clause.truth` — the truth of a clause on a row, given which characters count as equal.
-/
namespace RecordFilter

/-- True, false, or unknown as `none`. -/
abbrev Truth := Option Bool

namespace Truth

def not (t : Truth) : Truth := t.map (!·)

/-- False if one side is, else unknown if one side is. -/
def and : Truth → Truth → Truth
  | some false, _ => some false
  | _, some false => some false
  | some true, some true => some true
  | _, _ => none

/-- True if one side is, else unknown if one side is. -/
def or : Truth → Truth → Truth
  | some true, _ => some true
  | _, some true => some true
  | some false, some false => some false
  | _, _ => none

@[simp] theorem and_eq_true {s t : Truth} :
    s.and t = some true ↔ s = some true ∧ t = some true := by
  rcases s with - | - | - <;> rcases t with - | - | - <;> simp [and]

@[simp] theorem or_eq_true {s t : Truth} : s.or t = some true ↔ s = some true ∨ t = some true := by
  rcases s with - | - | - <;> rcases t with - | - | - <;> simp [or]

@[simp] theorem not_not (t : Truth) : t.not.not = t := by
  rcases t with - | - | - <;> rfl

end Truth

/-- What a column of a row holds. -/
inductive Cell where
  | null
  | value (v : SqlValue)
  | array (vs : List SqlValue)
  deriving DecidableEq, Repr

/-- The columns of a row by table and name. -/
abbrev Row := Column → Cell

/-- How two values are ordered, if they are of one kind. -/
def SqlValue.compare? : SqlValue → SqlValue → Option Ordering
  | .text a, .text b => some (textOrder a b)
  | .int a, .int b => some (compare a b)
  | .int a, .float b => (Number.int a).order? (.float b)
  | .float a, .int b => (Number.float a).order? (.int b)
  | .float a, .float b => (Number.float a).order? (.float b)
  | .bool a, .bool b => some (compare a b)
  | .timestamp a, .timestamp b => some (a.order b)
  | .date a, .date b => some (a.order b)
  | _, _ => none

namespace Clause

def compares (c : Comparator) (cell : Cell) (v : SqlValue) : Truth :=
  match cell with
  | .value w => (w.compare? v).map c.accepts
  | _ => none

/-- Whether a text meets a pattern; a pattern that cannot be read has no truth. -/
def likeTruth (same : Char → Char → Bool) (pattern : String) : Cell → Truth
  | .value (.text s) =>
    (Text.readLike? pattern.toList).map fun parts => Text.likeAccepts same parts s.toList
  | _ => none

/-- Whether one of the values is equal to that of the column. -/
def memberTruth (vs : List SqlValue) (cell : Cell) : Truth :=
  vs.foldr (fun v t => (compares .eq cell v).or t) (some false)

def containsTruth (v : SqlValue) : Cell → Truth
  | .array ws => some (ws.any fun w => w.compare? v = some .eq)
  | _ => none

mutual

/-- The truth of a clause on a row. A test of patterns that does not ignore letter case compares
characters as they are. -/
def truth (same : Char → Char → Bool) (row : Row) : Clause → Truth
  | .compare column c v => compares c (row column) v
  | .like column anyCase pattern negated =>
    let t := likeTruth (if anyCase then same else (· == ·)) pattern (row column)
    if negated then t.not else t
  | .member column vs negated =>
    let t := memberTruth vs (row column)
    if negated then t.not else t
  | .between column low high =>
    (compares .gte (row column) low).and (compares .lte (row column) high)
  | .isNull column negated => some ((row column = .null) != negated)
  | .contains column v => containsTruth v (row column)
  | .and parts => truthOfEach same row parts
  | .or parts => truthOfSome same row parts
  | .not part => (truth same row part).not

def truthOfEach (same : Char → Char → Bool) (row : Row) : List Clause → Truth
  | [] => some true
  | c :: rest => (truth same row c).and (truthOfEach same row rest)

def truthOfSome (same : Char → Char → Bool) (row : Row) : List Clause → Truth
  | [] => some false
  | c :: rest => (truth same row c).or (truthOfSome same row rest)

end

/-- Whether the clause selects the row. -/
def selects (same : Char → Char → Bool) (row : Row) (c : Clause) : Bool :=
  c.truth same row = some true

end Clause
end RecordFilter
