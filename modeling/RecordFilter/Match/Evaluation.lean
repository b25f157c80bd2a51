import RecordFilter.Match.Basic
import RecordFilter.Text.Matching
import RecordFilter.Calendar.Reading
/-!
# Which documents a match selects

A field is found by the steps of its path; a step that leads nowhere finds nothing. Null stands for
a missing field. An array meets a condition if one of its elements does. Operands count as they are
written, and a written date is read back to the millisecond.

## Main definitions

* `Json.at?` — what a document holds at a path.
* `Json.toScalar?` — a stored value by its extended form.
* `MatchOperator.accepts`, `Match.selects` — the selection, given which characters count as equal.
-/
namespace RecordFilter

/-- The steps of a path, which dots separate. -/
def splitPath : List Char → List (List Char)
  | [] => [[]]
  | c :: rest =>
    if c = '.' then [] :: splitPath rest
    else
      match splitPath rest with
      | [] => [[c]]
      | step :: steps => (c :: step) :: steps

namespace Json

/-- What is found behind the steps. -/
def follow? : Json → List (List Char) → Option Json
  | v, [] => some v
  | .object members, step :: steps =>
    match Entries.lookup? (String.ofList step) members with
    | some v => follow? v steps
    | none => none
  | _, _ :: _ => none

def at? (v : Json) (path : String) : Option Json := v.follow? (splitPath path.toList)

/-- The stored value that a value in extended form writes. -/
def toScalar? : Json → Option Scalar
  | .string s => some (.text s)
  | .number n => some (.number n)
  | .bool b => some (.bool b)
  | .object [("$date", .string s)] => (Moment.ofText? s).map .timestamp
  | .object [("$oid", .string hex)] => some (.objectId hex)
  | _ => none

/-- How two values are ordered, if they are of one kind. -/
def compare? (v w : Json) : Option Ordering :=
  match v.toScalar?, w.toScalar? with
  | some s, some t => s.compare? t
  | _, _ => none

/-- The values that a condition is about: those of an array, or the value itself. -/
def candidates : Option Json → List Json
  | some (.array items) => items
  | some v => [v]
  | none => []

/-- Whether a field is equal to a value; a missing field is equal to null. -/
def fieldEquals (found : Option Json) (v : Json) : Bool :=
  if v.isNull then found.all isNull || (candidates found).any isNull
  else (candidates found).any fun w => w.compare? v = some .eq

def fieldCompares (c : Comparator) (found : Option Json) (v : Json) : Bool :=
  match c with
  | .eq => fieldEquals found v
  | .ne => !fieldEquals found v
  | c => (candidates found).any fun w => (w.compare? v).any c.accepts

/-- Whether a text in the field meets a regular expression; one that cannot be read meets none. -/
def fieldMatches (same : Char → Char → Bool) (found : Option Json) (pattern : String) : Bool :=
  match Text.readRegex? pattern.toList with
  | none => false
  | some parts =>
    (candidates found).any fun v =>
      v.toString?.any fun s => Text.regexAccepts same parts s.toList

end Json

/-- Whether a field meets the operator. -/
def MatchOperator.accepts (same : Char → Char → Bool) (found : Option Json) : MatchOperator → Bool
  | .compare c operand => Json.fieldCompares c found (operandJson operand)
  | .member operands negated =>
    (operands.any fun operand => Json.fieldEquals found (operandJson operand)) != negated
  | .isPresent => found.isSome
  | .regex pattern negated => Json.fieldMatches same found pattern != negated

namespace Match

mutual

/-- Whether the match selects the document. -/
def selects (same : Char → Char → Bool) (document : Json) : Match → Bool
  | .isNull path => Json.fieldEquals (document.at? path) .null
  | .field path operators => operators.all (MatchOperator.accepts same (document.at? path))
  | .and parts => selectsEach same document parts
  | .or parts => selectsSome same document parts

def selectsEach (same : Char → Char → Bool) (document : Json) : List Match → Bool
  | [] => true
  | m :: rest => selects same document m && selectsEach same document rest

def selectsSome (same : Char → Char → Bool) (document : Json) : List Match → Bool
  | [] => false
  | m :: rest => selects same document m || selectsSome same document rest

end

theorem selectsEach_eq_all (same : Char → Char → Bool) (document : Json) (parts : List Match) :
    selectsEach same document parts = parts.all (selects same document) := by
  induction parts with
  | nil => simp [selectsEach]
  | cons m rest ih => simp [selectsEach, ih]

theorem selectsSome_eq_any (same : Char → Char → Bool) (document : Json) (parts : List Match) :
    selectsSome same document parts = parts.any (selects same document) := by
  induction parts with
  | nil => simp [selectsSome]
  | cons m rest ih => simp [selectsSome, ih]

end Match
end RecordFilter
