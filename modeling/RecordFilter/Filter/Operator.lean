/-!
# Operators

What a condition asks of a field. The set of operators is closed; a key that names none of them is
kept as it is and asks nothing.

## Main definitions

* `Operator.key`, `Operator.ofKey` — the name of an operator and the operator of a name.
* `Operator.known` — the operators that have a name of their own, in the order they are listed.
* `Operator.group` — the family an operator belongs to.
-/
namespace RecordFilter

inductive TimeUnit where
  | hours | days | weeks | months | years
  deriving DecidableEq, Repr

inductive Comparison where
  | lt | lte | gt | gte
  deriving DecidableEq, Repr

/-- Where in a value a pattern has to occur. -/
inductive Placement where
  | anywhere | start | ending
  deriving DecidableEq, Repr

/-- Which side of a given day. -/
inductive DaySide where
  | on | onOrAfter | onOrBefore
  deriving DecidableEq, Repr

inductive Period where
  | week | month | year | fiscalYear
  deriving DecidableEq, Repr

/-- Which period, seen from the one that contains the present. -/
inductive Shift where
  | this | next | last
  deriving DecidableEq, Repr

inductive CalendarRange where
  | today | yesterday | tomorrow | nextSevenDays | lastSevenDays
  | period (shift : Shift) (kind : Period)
  | inFiscalYear
  deriving DecidableEq, Repr

inductive Direction where
  | next | last | olderThan
  deriving DecidableEq, Repr

/-- Operators that describe a span of time. -/
inductive DateOperator where
  | day (side : DaySide)
  | calendar (range : CalendarRange)
  | rolling (direction : Direction) (unit : TimeUnit)
  deriving DecidableEq, Repr

inductive Operator where
  | compare (c : Comparison)
  | pattern (place : Placement) (negated : Bool)
  | equality (negated : Bool)
  | nullity (negated : Bool)
  | membership (negated : Bool)
  | between
  | date (d : DateOperator)
  /-- A key that names no operator. -/
  | unknown (key : String)
  deriving DecidableEq, Repr

def TimeUnit.all : List TimeUnit := [.hours, .days, .weeks, .months, .years]

def TimeUnit.key : TimeUnit → String
  | .hours => "hours"
  | .days => "days"
  | .weeks => "weeks"
  | .months => "months"
  | .years => "years"

def TimeUnit.ofKey? (s : String) : Option TimeUnit := all.find? fun unit => unit.key = s

/-- How many periods later. -/
def Shift.offset : Shift → Int
  | .this => 0
  | .next => 1
  | .last => -1

/-- What is left of a text behind a start that it has. -/
def Text.behind? (start s : String) : Option String :=
  (start.toList.isPrefixOf? s.toList).map String.ofList

namespace Operator

/-- The keys of the operators that count no units. -/
def fixedKeys : List String :=
  ["lt", "lte", "gt", "gte", "like", "not-like", "begins-with", "ends-with", "not-begin-with",
    "not-end-with", "eq", "ne", "null", "not-null", "in", "not-in", "between", "on", "on-or-after",
    "on-or-before", "today", "yesterday", "tomorrow", "this-week", "this-month", "this-year",
    "this-fiscal-year", "next-week", "next-month", "next-year", "next-fiscal-year", "last-week",
    "last-month", "last-year", "last-fiscal-year", "next-seven-days", "last-seven-days",
    "in-fiscal-year"]

/-- The key of an operator that counts no units. -/
def fixedKey : Operator → String
  | .compare .lt => "lt"
  | .compare .lte => "lte"
  | .compare .gt => "gt"
  | .compare .gte => "gte"
  | .pattern .anywhere false => "like"
  | .pattern .anywhere true => "not-like"
  | .pattern .start false => "begins-with"
  | .pattern .ending false => "ends-with"
  | .pattern .start true => "not-begin-with"
  | .pattern .ending true => "not-end-with"
  | .equality false => "eq"
  | .equality true => "ne"
  | .nullity false => "null"
  | .nullity true => "not-null"
  | .membership false => "in"
  | .membership true => "not-in"
  | .between => "between"
  | .date (.day .on) => "on"
  | .date (.day .onOrAfter) => "on-or-after"
  | .date (.day .onOrBefore) => "on-or-before"
  | .date (.calendar .today) => "today"
  | .date (.calendar .yesterday) => "yesterday"
  | .date (.calendar .tomorrow) => "tomorrow"
  | .date (.calendar (.period .this .week)) => "this-week"
  | .date (.calendar (.period .this .month)) => "this-month"
  | .date (.calendar (.period .this .year)) => "this-year"
  | .date (.calendar (.period .this .fiscalYear)) => "this-fiscal-year"
  | .date (.calendar (.period .next .week)) => "next-week"
  | .date (.calendar (.period .next .month)) => "next-month"
  | .date (.calendar (.period .next .year)) => "next-year"
  | .date (.calendar (.period .next .fiscalYear)) => "next-fiscal-year"
  | .date (.calendar (.period .last .week)) => "last-week"
  | .date (.calendar (.period .last .month)) => "last-month"
  | .date (.calendar (.period .last .year)) => "last-year"
  | .date (.calendar (.period .last .fiscalYear)) => "last-fiscal-year"
  | .date (.calendar .nextSevenDays) => "next-seven-days"
  | .date (.calendar .lastSevenDays) => "last-seven-days"
  | .date (.calendar .inFiscalYear) => "in-fiscal-year"
  | .date (.rolling _ _) => ""
  | .unknown _ => ""

def key : Operator → String
  | .date (.rolling .next unit) => "next-x-" ++ unit.key
  | .date (.rolling .last unit) => "last-x-" ++ unit.key
  | .date (.rolling .olderThan unit) => "olderthan-x-" ++ unit.key
  | .unknown key => key
  | o => o.fixedKey

/-- The operator of a key behind whose start a unit is named. -/
def ofCountingKey? (s : String) : Option Operator :=
  match Text.behind? "next-x-" s with
  | some unit => (TimeUnit.ofKey? unit).map fun unit => .date (.rolling .next unit)
  | none =>
    match Text.behind? "last-x-" s with
    | some unit => (TimeUnit.ofKey? unit).map fun unit => .date (.rolling .last unit)
    | none =>
      match Text.behind? "olderthan-x-" s with
      | some unit => (TimeUnit.ofKey? unit).map fun unit => .date (.rolling .olderThan unit)
      | none => none

/-- The operator of a key. -/
def ofKey (s : String) : Operator :=
  match s with
  | "lt" => .compare .lt
  | "lte" => .compare .lte
  | "gt" => .compare .gt
  | "gte" => .compare .gte
  | "like" => .pattern .anywhere false
  | "not-like" => .pattern .anywhere true
  | "begins-with" => .pattern .start false
  | "ends-with" => .pattern .ending false
  | "not-begin-with" => .pattern .start true
  | "not-end-with" => .pattern .ending true
  | "eq" => .equality false
  | "ne" => .equality true
  | "null" => .nullity false
  | "not-null" => .nullity true
  | "in" => .membership false
  | "not-in" => .membership true
  | "between" => .between
  | "on" => .date (.day .on)
  | "on-or-after" => .date (.day .onOrAfter)
  | "on-or-before" => .date (.day .onOrBefore)
  | "today" => .date (.calendar .today)
  | "yesterday" => .date (.calendar .yesterday)
  | "tomorrow" => .date (.calendar .tomorrow)
  | "this-week" => .date (.calendar (.period .this .week))
  | "this-month" => .date (.calendar (.period .this .month))
  | "this-year" => .date (.calendar (.period .this .year))
  | "this-fiscal-year" => .date (.calendar (.period .this .fiscalYear))
  | "next-week" => .date (.calendar (.period .next .week))
  | "next-month" => .date (.calendar (.period .next .month))
  | "next-year" => .date (.calendar (.period .next .year))
  | "next-fiscal-year" => .date (.calendar (.period .next .fiscalYear))
  | "last-week" => .date (.calendar (.period .last .week))
  | "last-month" => .date (.calendar (.period .last .month))
  | "last-year" => .date (.calendar (.period .last .year))
  | "last-fiscal-year" => .date (.calendar (.period .last .fiscalYear))
  | "next-seven-days" => .date (.calendar .nextSevenDays)
  | "last-seven-days" => .date (.calendar .lastSevenDays)
  | "in-fiscal-year" => .date (.calendar .inFiscalYear)
  | s => (ofCountingKey? s).getD (.unknown s)

/-- Every operator that has a name of its own. -/
def known : List Operator :=
  fixedKeys.map ofKey ++
    [Direction.next, .last, .olderThan].flatMap fun direction =>
      TimeUnit.all.map fun unit => .date (.rolling direction unit)

/-- Whether the operator is a key that names none. -/
def isUnknown : Operator → Bool
  | .unknown _ => true
  | _ => false

/-- Operators that need a list of values. -/
def needsList : Operator → Bool
  | .membership _ => true
  | _ => false

/-- Families of operators. -/
inductive Group where
  | comparison | pattern | equality | nullity | membership | range | absoluteDay | calendar
  | rolling | ignored
  deriving DecidableEq, Repr

def Group.name : Group → String
  | .comparison => "comparison"
  | .pattern => "pattern"
  | .equality => "equality"
  | .nullity => "null"
  | .membership => "membership"
  | .range => "range"
  | .absoluteDay => "absolute-day"
  | .calendar => "calendar"
  | .rolling => "rolling"
  | .ignored => "ignored"

def group : Operator → Group
  | .compare _ => .comparison
  | .pattern _ _ => .pattern
  | .equality _ => .equality
  | .nullity _ => .nullity
  | .membership _ => .membership
  | .between => .range
  | .date (.day _) => .absoluteDay
  | .date (.calendar _) => .calendar
  | .date (.rolling _ _) => .rolling
  | .unknown _ => .ignored

end Operator
end RecordFilter
