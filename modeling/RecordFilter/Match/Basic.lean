import RecordFilter.Filter.Test
import RecordFilter.Filter.Comparator
import RecordFilter.Text.Pattern
/-!
# Match predicates

Predicates of a document store. A field is tested by a list of operators that all have to hold; in
the written form they are the members of one object. Dates and object ids are written as extended
values.

## Main definitions

* `Match`, `Match.toJson`.
* `Match.ofTest` — the predicate that asks a test of the field at a path.
* `Match.join` — several predicates joined.
-/
namespace RecordFilter

/-- An operator on the value of a field. An operand that is `none` is null. -/
inductive MatchOperator where
  | compare (c : Comparator) (operand : Option Scalar)
  | member (operands : List (Option Scalar)) (negated : Bool)
  | isPresent
  /-- Letter case does not count. -/
  | regex (pattern : String) (negated : Bool)
  deriving DecidableEq, Repr

inductive Match where
  | isNull (path : String)
  | field (path : String) (operators : List MatchOperator)
  | and (parts : List Match)
  | or (parts : List Match)
  deriving Repr

/-! ## Writing -/

/-- A value in its extended form. -/
def Scalar.toJson : Scalar → Json
  | .text s => .string s
  | .number n => .number n
  | .bool b => .bool b
  | .timestamp t => .object [("$date", .string t.millisText)]
  | .date d => .object [("$date", .string (Moment.midnight d).millisText)]
  | .objectId hex => .object [("$oid", .string hex)]

/-- A value as an operand. A date stands for its start in UTC; one without a start there is null. -/
def Scalar.toOperand : Scalar → Json
  | .date d =>
    match Zone.utc.midnight d with
    | .ok start => (Scalar.timestamp start).toJson
    | .error _ => .null
  | s => s.toJson

def Comparator.key : Comparator → String
  | .eq => "$eq"
  | .ne => "$ne"
  | .lt => "$lt"
  | .lte => "$lte"
  | .gt => "$gt"
  | .gte => "$gte"

namespace MatchOperator

def operandJson : Option Scalar → Json
  | some s => s.toOperand
  | none => .null

def regexMembers (pattern : String) : List (String × Json) :=
  [("$regex", .string pattern), ("$options", .string "i")]

/-- The members that write the operator. -/
def members : MatchOperator → List (String × Json)
  | compare c operand => [(c.key, operandJson operand)]
  | member operands negated =>
    [(if negated then "$nin" else "$in", .array (operands.map operandJson))]
  | isPresent => [("$exists", .bool true)]
  | regex pattern false => regexMembers pattern
  | regex pattern true => [("$not", .object (regexMembers pattern))]

end MatchOperator

namespace Match

mutual

def toJson : Match → Json
  | .isNull path => .object [(path, .null)]
  | .field path operators => .object [(path, .object (operators.flatMap MatchOperator.members))]
  | .and parts => .object [("$and", .array (toJsonAll parts))]
  | .or parts => .object [("$or", .array (toJsonAll parts))]

def toJsonAll : List Match → List Json
  | [] => []
  | m :: rest => toJson m :: toJsonAll rest

end

/-! ## Building -/

def join : Connective → List Match → Match
  | .and, parts => .and parts
  | .or, parts => .or parts

def regexOf (anchor : Anchor) (text : String) : String :=
  Text.regexPattern anchor.atStart anchor.atEnd text

/-- The members of a set of truth values; false brings no value along. -/
def flagOperands (f : Flags) : List (Option Scalar) :=
  (if f.wantsTrue then [some (.bool true)] else []) ++
    (if f.wantsFalse then [some (.bool false), none] else [])

def upperOperator : UpperBound → MatchOperator
  | .inclusive s => .compare .lte (some s)
  | .exclusive s => .compare .lt (some s)

def windowOperators (w : Window) : List MatchOperator :=
  (w.start?.map fun t => MatchOperator.compare .gte (some (.timestamp t))).toList ++
    (w.finish?.map fun t => MatchOperator.compare .lt (some (.timestamp t))).toList

def equality (path : String) (s : Scalar) (negated : Bool) : Match :=
  .field path [.compare (if negated then .ne else .eq) (some s)]

def membership (path : String) (ss : List Scalar) (negated : Bool) : Match :=
  .field path [.member (ss.map some) negated]

/-- An array is equal to a value, or a member of a list, if one of its elements is. -/
def ofTest (path : String) : Test → Match
  | .compare c s => .field path [.compare c.comparator (some s)]
  | .pattern anchor text false => .field path [.regex (regexOf anchor text) false]
  | .pattern anchor text true =>
    .field path [.compare .ne none, .regex (regexOf anchor text) true]
  | .sameText text negated => .field path [.regex (regexOf .whole text) negated]
  | .equal s negated => equality path s negated
  | .contains s negated => equality path s negated
  | .isNull false => .isNull path
  | .isNull true => .field path [.isPresent, .compare .ne none]
  | .member ss negated => membership path ss negated
  | .containsAny ss negated => membership path ss negated
  | .flags f negated => .field path [.member (flagOperands f) negated]
  | .range low high => .field path [.compare .gte (some low), upperOperator high]
  | .window w => .field path (windowOperators w)
  | .wholeDays w => .field path (windowOperators w)

end Match
end RecordFilter
