import RecordFilter.Filter.Operator
import RecordFilter.Schema.Attribute
/-!
# Which operators apply to which attributes

An operator applies to an attribute, or it is refused; a range on values without an order is
neither, and its condition is dropped.
-/
namespace RecordFilter

inductive Applicability where
  | allowed
  /-- The condition asks nothing. -/
  | dropped
  | refused
  deriving DecidableEq, Repr

namespace Applicability

def name : Applicability → String
  | .allowed => "allowed"
  | .dropped => "degrade"
  | .refused => "rejected"

def allowedIf (b : Bool) : Applicability := if b then .allowed else .refused

end Applicability

namespace Attribute

def isDate (a : Attribute) : Bool := a.kind = .date

/-- Whether values have an order that comparisons use. -/
def isOrdered (a : Attribute) : Bool := a.isNumeric || a.isDate

/-- Whether values are texts that a pattern can be looked for in. -/
def isText : Attribute → Bool
  | .string => true
  | .choice options => discriminantOf options = .string
  | _ => false

end Attribute

def Operator.applicability (o : Operator) (a : Attribute) : Applicability :=
  match o with
  | .compare _ => .allowedIf a.isOrdered
  | .pattern _ _ => .allowedIf a.isText
  | .equality _ => .allowed
  | .nullity _ => .allowed
  | .membership _ => .allowedIf !a.isDate
  | .between => if a.isOrdered then .allowed else .dropped
  | .date _ => .allowedIf a.isDate
  | .unknown _ => .allowed

end RecordFilter
