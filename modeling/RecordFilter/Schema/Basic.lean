import RecordFilter.Schema.Attribute
import RecordFilter.Text.Blank
/-!
# Schemas

The schema of an entity: its name, its attributes and which of them identify and name a record.

## Main definitions

* `Schema.faultIn` — the first fault that is met, given an order of the attributes.
* `Schema.check` — the first fault of a schema, if it has one.
* `Schema.ofDocument` — reading; an attribute given twice counts as it is given last.
-/
namespace RecordFilter

/-- Attributes are kept in the order in which they are first given. -/
structure Schema where
  logicalName : String
  attributes : List (String × Attribute)
  idAttribute : String
  primaryAttribute : String
  deriving Repr

inductive SchemaFault where
  | document (e : DocumentError)
  | emptyName
  | undefinedAttribute (role name schema : String)
  | lookupWithoutTarget (name schema : String)
  | mixedOptions (name schema : String)
  deriving DecidableEq, Repr

def SchemaFault.message : SchemaFault → String
  | .document e => e.message
  | .emptyName => "logical name cannot be empty"
  | .undefinedAttribute role name schema =>
    role ++ " attribute '" ++ name ++ "' is not defined on '" ++ schema ++ "'"
  | .lookupWithoutTarget name schema =>
    "lookup '" ++ name ++ "' on '" ++ schema ++ "' has no target"
  | .mixedOptions name schema =>
    "options of '" ++ name ++ "' on '" ++ schema ++ "' must be all strings or all numbers"

namespace Schema

def attribute? (s : Schema) (name : String) : Option Attribute :=
  Entries.lookup? name s.attributes

/-! ## Validity -/

def isBlankText (s : String) : Bool := (Text.trimChars s.toList).isEmpty

/-- The options of a choice are all texts or all numbers. -/
def areUniform (options : List ChoiceOption) : Bool :=
  options.all (·.value.isString) || options.all (·.value.isNumber)

def attributeFault? (schema name : String) : Attribute → Option SchemaFault
  | .lookup target _ => if isBlankText target then some (.lookupWithoutTarget name schema) else none
  | .choice options => if areUniform options then none else some (.mixedOptions name schema)
  | .choices options => if areUniform options then none else some (.mixedOptions name schema)
  | _ => none

def roleFault? (s : Schema) (role name : String) : Option SchemaFault :=
  if (s.attribute? name).isSome then none
  else some (.undefinedAttribute role name s.logicalName)

/-- The first fault that is met where the attributes are gone through in some order, which a hash
table does not tell. -/
def faultIn (s : Schema) (order : List (String × Attribute)) : Option SchemaFault :=
  if isBlankText s.logicalName then some .emptyName
  else
    (s.roleFault? "id" s.idAttribute).or <|
    (s.roleFault? "primary" s.primaryAttribute).or <|
    order.findSome? fun (name, a) => attributeFault? s.logicalName name a

/-- The first fault in the order in which the attributes are given. -/
def fault? (s : Schema) : Option SchemaFault := s.faultIn s.attributes

/-- Names its entity, has the attributes it refers to, and no lookup or choice is at fault. -/
def IsValid (s : Schema) : Prop := s.fault? = none

instance (s : Schema) : Decidable s.IsValid := inferInstanceAs (Decidable (s.fault? = none))

def check (s : Schema) : Except SchemaFault Unit :=
  match s.fault? with
  | some fault => .error fault
  | none => .ok ()

/-! ## Reading -/

def readAttributeMembers (attributes : List (String × Attribute)) :
    List (Option String × Document) → Except DocumentError (List (String × Attribute))
  | [] => .ok attributes
  | (some name, d) :: rest => do
    readAttributeMembers (Entries.put name (← Attribute.ofDocument d) attributes) rest
  | (none, _) :: _ => .error .mismatch

def readAttributes : Document → Except DocumentError (List (String × Attribute))
  | .object members => readAttributeMembers [] members
  | _ => .error .mismatch

/-- The fields of a schema that have been met. -/
structure Draft where
  logicalName : Option String := none
  attributes : Option (List (String × Attribute)) := none
  idAttribute : Option String := none
  primaryAttribute : Option String := none

def Draft.add (draft : Draft) : String × Document → Except DocumentError Draft
  | ("logicalName", d) => do
    return { draft with
      logicalName := ← Document.fill "logicalName" draft.logicalName d.toText }
  | ("attributes", d) => do
    return { draft with
      attributes := ← Document.fill "attributes" draft.attributes (readAttributes d) }
  | ("idAttribute", d) => do
    return { draft with
      idAttribute := ← Document.fill "idAttribute" draft.idAttribute d.toText }
  | ("primaryAttribute", d) => do
    return { draft with
      primaryAttribute := ← Document.fill "primaryAttribute" draft.primaryAttribute d.toText }
  | _ => .ok draft

def Draft.finish (draft : Draft) : Except DocumentError Schema := do
  let logicalName ← Document.require "logicalName" draft.logicalName
  let attributes ← Document.require "attributes" draft.attributes
  let idAttribute ← Document.require "idAttribute" draft.idAttribute
  let primaryAttribute ← Document.require "primaryAttribute" draft.primaryAttribute
  return ⟨logicalName, attributes, idAttribute, primaryAttribute⟩

def ofDocument : Document → Except DocumentError Schema
  | .object members => do (← Document.foldMembers Draft.add {} members).finish
  | .array items => do
    let (logicalName, rest) ← Document.first Document.toText items
    let (attributes, rest) ← Document.first readAttributes rest
    let (idAttribute, rest) ← Document.first Document.toText rest
    let (primaryAttribute, rest) ← Document.first Document.toText rest
    Document.finish ⟨logicalName, attributes, idAttribute, primaryAttribute⟩ rest
  | _ => .error .mismatch

def read (s : String) : Except DocumentError Schema := Document.read ofDocument s

end Schema
end RecordFilter
