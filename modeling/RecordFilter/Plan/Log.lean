import RecordFilter.Filter.Error
/-!
# Log entries

What is reported on the way, beside the result: conditions that were dropped, dates that could not
be resolved, fields of a settings file that are not known.
-/
namespace RecordFilter

inductive LogEntry where
  | unknownOperator (field key : String)
  | notApplicable (field : String) (operator : Operator) (kind : Attribute.Kind)
  | unresolvedTime (time : LocalTime) (zone : String)
  | unknownFields (names : List String)
  deriving DecidableEq, Repr

namespace LogEntry

def level : LogEntry → String
  | notApplicable _ _ _ => "debug"
  | _ => "warn"

def message : LogEntry → String
  | unknownOperator _ _ => "Ignoring unknown operator"
  | notApplicable _ _ _ => "Dropping condition not applicable to attribute type"
  | unresolvedTime _ _ => "Could not resolve local time"
  | unknownFields _ => "Unknown fields in config file (possible typos)"

/-- What the entry is about, by name. -/
def fields : LogEntry → List (String × String)
  | unknownOperator field key => [("field", field), ("operator", key)]
  | notApplicable field operator kind =>
    [("field", field), ("operator", operator.key), ("attribute_type", kind.name)]
  | unresolvedTime time zone => [("local", time.clockText), ("timezone", zone)]
  | unknownFields names => [("fields", ", ".intercalate names)]

/-- A search for a local time is reported when it gave up. -/
def ofNoInstant : NoInstant → List LogEntry
  | .skipped time zone => [unresolvedTime time zone]
  | _ => []

def ofError (e : FilterError) : List LogEntry :=
  match e.noInstant? with
  | some why => ofNoInstant why
  | none => []

end LogEntry
end RecordFilter
