import RecordFilter.Plan.Target
import RecordFilter.Plan.Log
/-!
# Plans

A filter on the records of an entity becomes a predicate together with the relations it needs:
the lookups whose records have to be at hand. Conditions that ask nothing are dropped; the first
condition at fault, in the order of visiting, refuses the filter.

## Main definitions

* `Compiler` — a target with the schemas and the circumstances of compilation.
* `Compiler.condition`, `Compiler.outcome` — a single condition.
* `Compiler.plan`, `Compiler.journal` — a filter, and what is reported on the way.
-/
namespace RecordFilter

/-- A lookup whose record has to be at hand under a name. -/
structure Relation where
  handle : String
  field : String
  /-- The logical name of the schema that the lookup leads to. -/
  target : String
  deriving DecidableEq, Repr

def Relation.toJson (r : Relation) : Json :=
  .object [("alias", .string r.handle), ("field", .string r.field), ("target", .string r.target)]

/-- The first relation of each name. -/
def Relation.distinct : List Relation → List Relation
  | [] => []
  | r :: rest => r :: (distinct rest).filter fun s => s.handle ≠ r.handle

structure Plan (P : Type) where
  /-- Without a predicate, every record is selected. -/
  predicate : Option P
  relations : List Relation
  deriving Repr

/-- Why a condition asks nothing. -/
inductive Dropped where
  | unknownOperator (field key : String)
  | notApplicable (field : String) (operator : Operator) (kind : Attribute.Kind)
  deriving DecidableEq, Repr

def Dropped.entry : Dropped → LogEntry
  | unknownOperator field key => .unknownOperator field key
  | notApplicable field operator kind => .notApplicable field operator kind

/-- What becomes of a condition. -/
inductive Outcome (P : Type) where
  | dropped (why : Dropped)
  | kept (predicate : P) (relation : Option Relation)
  deriving Repr

namespace Outcome

variable {P : Type}

def predicate? : Outcome P → Option P
  | dropped _ => none
  | kept p _ => some p

def relation? : Outcome P → Option Relation
  | dropped _ => none
  | kept _ r => r

end Outcome

/-- Equality with null is a test for null. -/
def Operator.resolve (o : Operator) (v : Json) : Operator :=
  match o, v with
  | .equality negated, .null => .nullity negated
  | o, _ => o

structure Compiler (P : Type) where
  target : Target P
  store : Store
  now : Instant
  timezone : String
  settings : CalendarSettings

/-- What a condition is about. -/
structure Located where
  field : FieldRef
  type : Option Attribute
  relation : Option Relation

namespace Compiler

variable {P : Type} [ZoneSource]

/-- The circumstances in which dates are understood. -/
def dates (c : Compiler P) : Except FilterError DateContext :=
  match Zone.ofName? c.timezone with
  | some zone => .ok ⟨c.now, zone, c.settings⟩
  | none => .error (.invalidTimezone c.timezone)

def isNonemptyArray : Json → Bool
  | .array (_ :: _) => true
  | _ => false

/-- What becomes of a condition on a field whose attribute has been found. -/
def onAttribute (c : Compiler P) (dates : DateContext) (found : Located) (condition : Condition)
    (type : Attribute) : Except FilterError (Outcome P) :=
  let shown := condition.displayField
  let operator := condition.operator.resolve condition.value
  let failed (why : ValueError) : FilterError := .invalidValue operator why
  match operator with
  | .unknown key => .ok (.dropped (.unknownOperator shown key))
  | _ =>
    if operator.needsList && !isNonemptyArray condition.value then .error (failed .emptyList)
    else
      match operator.applicability type with
      | .dropped => .ok (.dropped (.notApplicable shown operator type.kind))
      | .refused => .error (.invalidType operator shown type.kind)
      | .allowed =>
        let dates := (type.dateFormat?.map dates.forFormat).getD dates
        match c.target.transform ⟨found.field, type, operator, condition.value, dates⟩ with
        | .error why => .error (failed why)
        | .ok none => .ok (.dropped (.unknownOperator shown operator.key))
        | .ok (some p) => .ok (.kept p found.relation)

def onLocated (c : Compiler P) (dates : DateContext) (found : Located) (condition : Condition) :
    Except FilterError (Outcome P) :=
  match found.type with
  | some type => c.onAttribute dates found condition type
  | none => .error (.attributeNotFound condition.displayField)

/-- The predicate of a single condition on a bare field. -/
def condition (c : Compiler P) (condition : Condition) (type : Option Attribute) :
    Except FilterError (Outcome P) := do
  c.onLocated (← c.dates) ⟨⟨none, condition.field⟩, type, none⟩ condition

/-- The field that a condition is about, behind the lookup that leads to it. -/
def locate (c : Compiler P) (schema : Schema) (condition : Condition) :
    Except FilterError Located :=
  match condition.extendedKey with
  | none =>
    .ok ⟨⟨c.target.qualifier schema, condition.field⟩, schema.attribute? condition.field, none⟩
  | some key =>
    match schema.attribute? condition.field with
    | none => .error (.attributeNotFound condition.field)
    | some (.lookup target _) =>
      match c.store.get? target with
      | none => .error (.schemaNotFound target)
      | some related =>
        let handle := c.target.handle condition.field related
        .ok ⟨⟨some handle, key⟩, related.attribute? key,
          some ⟨handle, condition.field, related.logicalName⟩⟩
    | some other => .error (.invalidType condition.operator condition.field other.kind)

/-- What becomes of a condition on the records of a schema. -/
def outcome (c : Compiler P) (dates : DateContext) (schema : Schema) (condition : Condition) :
    Except FilterError (Outcome P) := do
  c.onLocated dates (← c.locate schema condition) condition

def planOf (c : Compiler P) (outcomes : Tree (Outcome P)) : Plan P where
  predicate := outcomes.combine c.target.join Outcome.predicate?
  relations := Relation.distinct (outcomes.toList.filterMap Outcome.relation?)

/-- The plan of a filter on the records of a schema. -/
def plan (c : Compiler P) (schema : Schema) (filter : Filter) : Except FilterError (Plan P) := do
  let dates ← c.dates
  let outcomes ← filter.traverse (c.outcome dates schema)
  return c.planOf outcomes

/-! ## Reports -/

def entriesOf : Except FilterError (Outcome P) → List LogEntry
  | .ok (.dropped why) => [why.entry]
  | .ok (.kept _ _) => []
  | .error e => LogEntry.ofError e

/-- The entries of a list of conditions, up to the first one at fault. -/
def journalOf (f : Condition → Except FilterError (Outcome P)) : List Condition → List LogEntry
  | [] => []
  | condition :: rest =>
    match f condition with
    | .error e => LogEntry.ofError e
    | .ok o => entriesOf (.ok o) ++ journalOf f rest

/-- What is reported while a filter is planned. -/
def journal (c : Compiler P) (schema : Schema) (filter : Filter) : List LogEntry :=
  match c.dates with
  | .error _ => []
  | .ok dates => journalOf (c.outcome dates schema) filter.toList

end Compiler
end RecordFilter
