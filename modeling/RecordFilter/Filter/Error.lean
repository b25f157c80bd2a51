import RecordFilter.Filter.Applicability
import RecordFilter.Filter.Limits
import RecordFilter.Schema.Basic
import RecordFilter.Calendar.Zone
/-!
# Why a filter is refused

Every failure is a cause with what it concerns; the wording is in `message`, the stable code in
`code`.
-/
namespace RecordFilter

/-- Why an operator cannot work with its value. -/
inductive ValueError where
  | emptyList
  | notTwoBounds
  | notText (found : Json)
  | notNumber (found : Json)
  | notNumeral (text : String)
  | notBoolean (found : Json)
  | notDateText (found : Json)
  /-- A day was expected. -/
  | notDayText
  | notDate (text : String) (why : NoInstant)
  | notReference (found : Json)
  | notObjectId (found : Json)
  | notCount (found : Json)
  | notYear (found : Json)
  | outOfRange (why : NoInstant)
  /-- The clocks show no date of the calendar. This is not reported: the run ends there. -/
  | noToday
  | noWindow
  /-- A window that begins and ends was expected. -/
  | notBoundedDay
  /-- A window that ends was expected. -/
  | noEndBound
  deriving Repr

def ValueError.message : ValueError → String
  | .emptyList => "expected a non-empty array"
  | .notTwoBounds => "expected an array of two bounds"
  | .notText found => "expected a string, got " ++ found.text
  | .notNumber found => "expected a number, got " ++ found.text
  | .notNumeral text => "'" ++ text ++ "' is not a number"
  | .notBoolean found => "expected a boolean, got " ++ found.text
  | .notDateText found => "expected a date string, got " ++ found.text
  | .notDayText => "expected a date string"
  | .notDate text _ => "'" ++ text ++ "' is not a valid date"
  | .notReference found => "expected a reference, got " ++ found.text
  | .notObjectId found => found.text ++ " is not a valid object id"
  | .notCount found => "expected a non-negative integer, got " ++ found.text
  | .notYear found => "expected a fiscal start year, got " ++ found.text
  | .outOfRange _ => "date out of range"
  | .noToday => "local time out of range"
  | .noWindow => "operator does not describe a date window"
  | .notBoundedDay => "expected a bounded day"
  | .noEndBound => "expected an end bound"

/-- What kept a date from being resolved, if that is the cause. -/
def ValueError.noInstant? : ValueError → Option NoInstant
  | .notDate _ why => some why
  | .outOfRange why => some why
  | _ => none

/-- What has to lie within the calendar. -/
def ValueError.inRange {α : Type} : Option α → Except ValueError α
  | some a => .ok a
  | none => .error (.outOfRange .beyondCalendar)

inductive FilterError where
  | attributeNotFound (field : String)
  | schemaNotFound (name : String)
  | invalidValue (operator : Operator) (why : ValueError)
  | invalidType (operator : Operator) (field : String) (kind : Attribute.Kind)
  | invalidTimezone (name : String)
  | invalidSchema (fault : SchemaFault)
  | invalidFilter (fault : FilterFault)
  deriving Repr

namespace FilterError

def message : FilterError → String
  | attributeNotFound field => "Attribute not found: " ++ field
  | schemaNotFound name => "Schema not found: " ++ name
  | invalidValue operator why =>
    "Invalid value for operator '" ++ operator.key ++ "': " ++ why.message
  | invalidType operator field kind =>
    "Operator '" ++ operator.key ++ "' cannot be applied to " ++ kind.name ++ " attribute '" ++
      field ++ "'"
  | invalidTimezone name => "Invalid timezone: " ++ name
  | invalidSchema fault => "Invalid schema: " ++ fault.message
  | invalidFilter fault => "Invalid filter: " ++ fault.message

def code : FilterError → String
  | attributeNotFound _ => "ATTRIBUTE_NOT_FOUND"
  | schemaNotFound _ => "SCHEMA_NOT_FOUND"
  | invalidValue _ _ => "INVALID_OPERATOR_VALUE"
  | invalidType _ _ _ => "INVALID_ATTRIBUTE_TYPE"
  | invalidTimezone _ => "INVALID_TIMEZONE"
  | invalidSchema _ => "INVALID_SCHEMA"
  | invalidFilter _ => "INVALID_FILTER"

/-- Whether the request is at fault, and not the description of the data. -/
def isClient : FilterError → Bool
  | schemaNotFound _ => false
  | invalidSchema _ => false
  | _ => true

/-- What kept a date from being resolved, if that is the cause. -/
def noInstant? : FilterError → Option NoInstant
  | invalidValue _ why => why.noInstant?
  | _ => none

end FilterError
end RecordFilter
