import RecordFilter.Filter.Scalar
/-!
# Comparisons of stored values

Two values of one kind are in order; numbers are compared by what they are worth, whatever their
form, and what is not a number has no place in the order. Values of different kinds are neither
equal nor in order.

## Main definitions

* `Comparator`, `Comparator.accepts` — the six comparisons.
* `Scalar.compare?` — the order of two values of one kind.
-/
namespace RecordFilter

/-- Comparisons with one value. -/
inductive Comparator where
  | eq | ne | lt | lte | gt | gte
  deriving DecidableEq, Repr

def Comparison.comparator : Comparison → Comparator
  | .lt => .lt
  | .lte => .lte
  | .gt => .gt
  | .gte => .gte

/-- Whether the comparison holds of two values in that order. -/
def Comparator.accepts : Comparator → Ordering → Bool
  | .eq, o => o = .eq
  | .ne, o => o ≠ .eq
  | .lt, o => o = .lt
  | .lte, o => o ≠ .gt
  | .gt, o => o = .gt
  | .gte, o => o ≠ .lt

def Moment.order (a b : Moment) : Ordering := if a < b then .lt else if b < a then .gt else .eq

def Date.order (a b : Date) : Ordering := if a < b then .lt else if b < a then .gt else .eq

/-- Integers and doubles by their exact values. -/
def Number.order? (a b : Number) : Option Ordering :=
  match a.toRat?, b.toRat? with
  | some x, some y => some (if x < y then .lt else if y < x then .gt else .eq)
  | _, _ => none

def textOrder (a b : String) : Ordering := if a < b then .lt else if b < a then .gt else .eq

namespace Scalar

def compare? : Scalar → Scalar → Option Ordering
  | .text a, .text b => some (textOrder a b)
  | .number a, .number b => a.order? b
  | .bool a, .bool b => some (compare a b)
  | .timestamp a, .timestamp b => some (a.order b)
  | .date a, .date b => some (a.order b)
  | .objectId a, .objectId b => some (textOrder a b)
  | _, _ => none

end Scalar
end RecordFilter
