import RecordFilter.Sql.Dialect
import RecordFilter.Filter.Test
import RecordFilter.Filter.Comparator
import RecordFilter.Text.Pattern
/-!
# Where clauses

Predicates of a relational database as trees, and their text with numbered parameters.

## Main definitions

* `Clause`, `Clause.text`, `Clause.params` — text and parameters run through the tree in the same
  order.
* `Clause.ofTest` — the clause that asks a test of a column.
* `Clause.join` — several clauses joined.
-/
namespace RecordFilter

inductive SqlValue where
  | text (s : String)
  | int (z : Int)
  | float (x : Binary64)
  | bool (b : Bool)
  | timestamp (t : Instant)
  | date (d : Date)
  deriving DecidableEq, Repr

abbrev Column := FieldRef

inductive Clause where
  | compare (column : Column) (c : Comparator) (value : SqlValue)
  /-- The pattern has its wildcards in place. -/
  | like (column : Column) (anyCase : Bool) (pattern : String) (negated : Bool)
  | member (column : Column) (values : List SqlValue) (negated : Bool)
  | between (column : Column) (low high : SqlValue)
  | isNull (column : Column) (negated : Bool)
  | contains (column : Column) (value : SqlValue)
  | and (parts : List Clause)
  | or (parts : List Clause)
  | not (part : Clause)
  deriving Repr

/-- A parameter in the written form of a plan. -/
def SqlValue.toJson : SqlValue → Json
  | .text s => .string s
  | .int z => .int z
  | .float x => .number (.float x)
  | .bool b => .bool b
  | .timestamp t => .string t.text
  | .date d => .string d.text

/-! ## Text -/

def Comparator.symbol : Comparator → String
  | .eq => "="
  | .ne => "<>"
  | .lt => "<"
  | .lte => "<="
  | .gt => ">"
  | .gte => ">="

namespace Clause

def columnText (d : Dialect) (c : Column) : List Char :=
  match c.qualifier with
  | some table => d.quoteName table ++ '.' :: d.quoteName c.name
  | none => d.quoteName c.name

mutual

/-- The values in the order of their parameters. -/
def params : Clause → List SqlValue
  | .compare _ _ value => [value]
  | .like _ _ pattern _ => [.text pattern]
  | .member _ values _ => values
  | .between _ low high => [low, high]
  | .isNull _ _ => []
  | .contains _ value => [value]
  | .and parts => paramsAll parts
  | .or parts => paramsAll parts
  | .not part => params part

def paramsAll : List Clause → List SqlValue
  | [] => []
  | c :: rest => params c ++ paramsAll rest

end

/-- Placeholders for so many parameters after those already used. -/
def placeholders (d : Dialect) (used : Nat) : Nat → List (List Char)
  | 0 => []
  | n + 1 => d.placeholder (used + 1) :: placeholders d (used + 1) n

def notText (negated : Bool) : List Char := if negated then "NOT ".toList else []

def likeText (d : Dialect) (anyCase : Bool) : List Char :=
  if anyCase && d.hasILike then "ILIKE ".toList else "LIKE ".toList

/-- Two parts or more stand in parentheses. -/
def joined (separator empty : String) : List (List Char) → List Char
  | [] => empty.toList
  | [part] => part
  | parts => '(' :: separator.toList.intercalate parts ++ [')']

mutual

/-- The text of a clause after so many parameters. -/
def chars (d : Dialect) (used : Nat) : Clause → List Char
  | .compare column c _ =>
    columnText d column ++ ' ' :: c.symbol.toList ++ ' ' :: d.placeholder (used + 1)
  | .like column anyCase _ negated =>
    columnText d column ++ ' ' :: notText negated ++ likeText d anyCase ++
      d.placeholder (used + 1) ++ d.likeEscape
  | .member column values negated =>
    columnText d column ++ ' ' :: notText negated ++ "IN (".toList ++
      [',', ' '].intercalate (placeholders d used values.length) ++ [')']
  | .between column _ _ =>
    columnText d column ++ " BETWEEN ".toList ++ d.placeholder (used + 1) ++ " AND ".toList ++
      d.placeholder (used + 2)
  | .isNull column negated =>
    columnText d column ++ " IS ".toList ++ notText negated ++ "NULL".toList
  | .contains column _ => d.arrayContains (columnText d column) (used + 1)
  | .and parts => joined " AND " "1=1" (charsAll d used parts)
  | .or parts => joined " OR " "1=0" (charsAll d used parts)
  | .not part => "NOT (".toList ++ chars d used part ++ [')']

def charsAll (d : Dialect) (used : Nat) : List Clause → List (List Char)
  | [] => []
  | c :: rest => chars d used c :: charsAll d (used + c.params.length) rest

end

/-- The text of a clause in a dialect; parameters are numbered from 1. -/
def text (d : Dialect) (c : Clause) : String := String.ofList (c.chars d 0)

/-! ## Building -/

def join : Connective → List Clause → Clause
  | .and, parts => .and parts
  | .or, parts => .or parts

/-- The clause, or no value in the column. -/
def orNull (column : Column) (c : Clause) : Clause := .or [.isNull column false, c]

/-- A value as the column stores it; integers that do not fit 64 bits with a sign are doubles. -/
def value : Scalar → SqlValue
  | .text s => .text s
  | .objectId hex => .text hex
  | .number n =>
    match n.toInt64? with
    | some z => .int z
    | none => .float n.toBinary64
  | .bool b => .bool b
  | .timestamp t => .timestamp t
  | .date d => .date d

def patternOf (anchor : Anchor) (text : String) : String :=
  Text.likePattern anchor.atStart anchor.atEnd text

/-- The column contains one of the values. -/
def containsAny (column : Column) (values : List SqlValue) : Clause :=
  match values.map (Clause.contains column) with
  | [c] => c
  | parts => .or parts

def flagValues (f : Flags) : List SqlValue :=
  (if f.wantsTrue then [.bool true] else []) ++ (if f.wantsFalse then [.bool false] else [])

/-- Membership of truth values; false also stands for no value. -/
def flags (column : Column) (f : Flags) (negated : Bool) : Clause :=
  let set := Clause.member column (flagValues f) negated
  match negated, f.wantsFalse with
  | false, true => orNull column set
  | false, false => set
  | true, true => .and [set, .isNull column true]
  | true, false => orNull column set

def range (column : Column) (low : Scalar) : UpperBound → Clause
  | .inclusive high => .between column (value low) (value high)
  | .exclusive high => .and [.compare column .gte (value low), .compare column .lt (value high)]

/-! ### Windows

A column of dates is compared with dates: a date is at or after an instant exactly if it is at or
after the first date whose start is. -/

/-- An instant as a bound for the column. -/
def bound (dateOnly : Bool) (t : Instant) : Except ValueError SqlValue :=
  if dateOnly then (ValueError.inRange t.ceilDate?).map .date else .ok (.timestamp t)

/-- The last value before the end of a day: a millisecond or a date earlier. -/
def lastBefore (dateOnly : Bool) (t : Instant) : Except ValueError SqlValue :=
  if dateOnly then (ValueError.inRange (t.ceilDate?.bind (·.addDays? (-1)))).map .date
  else (ValueError.inRange t.millisecondBefore?).map .timestamp

def window (column : Column) (dateOnly : Bool) : Window → Except ValueError Clause
  | .between start finish => do
    let low ← bound dateOnly start
    let high ← bound dateOnly finish
    return .and [.compare column .gte low, .compare column .lt high]
  | .since start => do return .compare column .gte (← bound dateOnly start)
  | .before finish => do return .compare column .lt (← bound dateOnly finish)

/-- A window whose end is the end of a day, compared with the last value in it. -/
def wholeDays (column : Column) (dateOnly : Bool) : Window → Except ValueError Clause
  | .between start finish => do
    let low ← bound dateOnly start
    let high ← lastBefore dateOnly finish
    return .between column low high
  | .since start => do return .compare column .gte (← bound dateOnly start)
  | .before finish => do return .compare column .lte (← lastBefore dateOnly finish)

/-- `anyCase` asks for pattern tests that ignore letter case. -/
def ofTest (anyCase dateOnly : Bool) (column : Column) : Test → Except ValueError Clause
  | .compare c s => .ok (.compare column c.comparator (value s))
  | .pattern anchor text negated => .ok (.like column anyCase (patternOf anchor text) negated)
  | .sameText text false => .ok (.like column anyCase (patternOf .whole text) false)
  | .sameText text true =>
    .ok (orNull column (.like column anyCase (patternOf .whole text) true))
  | .equal s false => .ok (.compare column .eq (value s))
  | .equal s true => .ok (orNull column (.compare column .ne (value s)))
  | .contains s false => .ok (.contains column (value s))
  | .contains s true => .ok (orNull column (.not (.contains column (value s))))
  | .isNull negated => .ok (.isNull column negated)
  | .member ss false => .ok (.member column (ss.map value) false)
  | .member ss true => .ok (orNull column (.member column (ss.map value) true))
  | .containsAny ss false => .ok (containsAny column (ss.map value))
  | .containsAny ss true => .ok (orNull column (.not (containsAny column (ss.map value))))
  | .flags f negated => .ok (flags column f negated)
  | .range low high => .ok (range column low high)
  | .window w => window column dateOnly w
  | .wholeDays w => wholeDays column dateOnly w

end Clause
end RecordFilter
