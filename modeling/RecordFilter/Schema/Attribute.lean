import RecordFilter.Json.Reading
/-!
# Attributes

What a schema says about one field of an entity: the type of its values and how they are stored.

## Main definitions

* `Attribute.discriminant?` — whether the values of a choice are texts or numbers.
* `Attribute.ofDocument`, `Attribute.toJson` — reading and writing.
-/
namespace RecordFilter

inductive DateFormat where
  /-- A calendar date, stored as its start in UTC. -/
  | date
  /-- An instant. -/
  | datetime
  deriving DecidableEq, Repr

/-- How a reference to another record is stored. -/
inductive ReferenceKind where
  /-- An object id of 24 hexadecimal digits. -/
  | objectId
  | string
  | number
  deriving DecidableEq, Repr

inductive Discriminant where
  | string
  | number
  deriving DecidableEq, Repr

/-- One value that a choice offers. -/
structure ChoiceOption where
  value : Json
  label : Option String
  deriving Repr

inductive Attribute where
  | string
  | number
  | money
  | boolean
  | date (format : DateFormat)
  | choice (options : List ChoiceOption)
  | choices (options : List ChoiceOption)
  | lookup (target : String) (reference : ReferenceKind)
  | id (reference : ReferenceKind)
  deriving Repr

def DateFormat.name : DateFormat → String
  | .date => "date"
  | .datetime => "datetime"

def DateFormat.table : List (String × DateFormat) := [("date", .date), ("datetime", .datetime)]

def ReferenceKind.name : ReferenceKind → String
  | .objectId => "objectId"
  | .string => "string"
  | .number => "number"

def ReferenceKind.table : List (String × ReferenceKind) :=
  [("objectId", .objectId), ("string", .string), ("number", .number)]

def Discriminant.name : Discriminant → String
  | .string => "string"
  | .number => "number"

namespace Attribute

/-- The types without what they carry. -/
inductive Kind where
  | string | number | money | boolean | date | choice | choices | lookup | id
  deriving DecidableEq, Repr

def Kind.name : Kind → String
  | .string => "string"
  | .number => "number"
  | .money => "money"
  | .boolean => "boolean"
  | .date => "date"
  | .choice => "choice"
  | .choices => "choices"
  | .lookup => "lookup"
  | .id => "id"

def Kind.table : List (String × Kind) :=
  [.string, .number, .money, .boolean, .date, .choice, .choices, .lookup, .id].map fun k =>
    (Kind.name k, k)

def kind : Attribute → Kind
  | .string => .string
  | .number => .number
  | .money => .money
  | .boolean => .boolean
  | .date _ => .date
  | .choice _ => .choice
  | .choices _ => .choices
  | .lookup _ _ => .lookup
  | .id _ => .id

def typeName (a : Attribute) : String := a.kind.name

def dateFormat? : Attribute → Option DateFormat
  | .date format => some format
  | _ => none

/-- Choices are numbers if there are options and every option is a number. -/
def discriminantOf (options : List ChoiceOption) : Discriminant :=
  if !options.isEmpty && options.all (·.value.isNumber) then .number else .string

def discriminant? : Attribute → Option Discriminant
  | .choice options => some (discriminantOf options)
  | .choices options => some (discriminantOf options)
  | _ => none

def isNumeric : Attribute → Bool
  | .number => true
  | .money => true
  | _ => false

/-- Whether values are calendar dates rather than instants. -/
def isDateOnly (a : Attribute) : Bool := a.dateFormat? = some .date

/-! ## Writing -/

def optionJson (o : ChoiceOption) : Json :=
  .object (("value", o.value) :: (o.label.map fun l => ("label", Json.string l)).toList)

def toJson (a : Attribute) : Json :=
  let fields : List (String × Json) :=
    match a with
    | .date format => [("format", .string format.name)]
    | .choice options => [("options", .array (options.map optionJson))]
    | .choices options => [("options", .array (options.map optionJson))]
    | .lookup target reference =>
      [("target", .string target), ("reference", .string reference.name)]
    | .id reference => [("reference", .string reference.name)]
    | _ => []
  .object (("type", .string a.typeName) :: fields)

/-! ## Reading -/

/-- The fields of an option that have been met. -/
structure OptionDraft where
  value : Option Json := none
  label : Option (Option String) := none

def OptionDraft.add (draft : OptionDraft) :
    String × Document → Except DocumentError OptionDraft
  | ("value", d) => do
    return { draft with value := ← Document.fill "value" draft.value d.toValue }
  | ("label", d) => do
    return { draft with
      label := ← Document.fill "label" draft.label (d.toOption Document.toText) }
  | _ => .ok draft

def optionOfDocument : Document → Except DocumentError ChoiceOption
  | .object members => do
    let draft ← Document.foldMembers OptionDraft.add {} members
    return ⟨← Document.require "value" draft.value, draft.label.getD none⟩
  | .array items => do
    let (value, rest) ← Document.first Document.toValue items
    let (label, rest) ← Document.firstD (Document.toOption Document.toText) none rest
    Document.finish ⟨value, label⟩ rest
  | _ => .error .mismatch

def readFormat : Document → Except DocumentError DateFormat :=
  Document.toNamedWithin DateFormat.table

def readReference : Document → Except DocumentError ReferenceKind :=
  Document.toNamedWithin ReferenceKind.table

def readOptions : Document → Except DocumentError (List ChoiceOption) :=
  Document.toList optionOfDocument

def readKind (d : Document) : Except DocumentError Kind := d.toText >>= Document.named Kind.table

/-- The fields of an attribute that have been met. -/
structure Draft where
  format : Option DateFormat := none
  options : Option (List ChoiceOption) := none
  target : Option String := none
  reference : Option ReferenceKind := none

/-- Whether attributes of a type have that field. -/
def Kind.hasField : Kind → String → Bool
  | .date, name => name = "format"
  | .choice, name => name = "options"
  | .choices, name => name = "options"
  | .lookup, name => name = "target" || name = "reference"
  | .id, name => name = "reference"
  | _, _ => false

def Draft.set (draft : Draft) (name : String) (d : Document) : Except DocumentError Draft :=
  match name with
  | "format" => do
    return { draft with format := ← Document.fill name draft.format (readFormat d) }
  | "options" => do
    return { draft with options := ← Document.fill name draft.options (readOptions d) }
  | "target" => do
    return { draft with target := ← Document.fill name draft.target d.toText }
  | "reference" => do
    return { draft with reference := ← Document.fill name draft.reference (readReference d) }
  | _ => .ok draft

def Draft.add (kind : Kind) (draft : Draft) :
    String × Document → Except DocumentError Draft
  | (name, d) => if kind.hasField name then draft.set name d else .ok draft

def Draft.finish (draft : Draft) : Kind → Except DocumentError Attribute
  | .string => .ok .string
  | .number => .ok .number
  | .money => .ok .money
  | .boolean => .ok .boolean
  | .date => .ok (.date (draft.format.getD .datetime))
  | .choice => .ok (.choice (draft.options.getD []))
  | .choices => .ok (.choices (draft.options.getD []))
  | .lookup => do
    return .lookup (← Document.require "target" draft.target) (draft.reference.getD .objectId)
  | .id => .ok (.id (draft.reference.getD .objectId))

/-- The type of an attribute that is written as an object. -/
def addKind (kind : Option Kind) : String × Document → Except DocumentError (Option Kind)
  | ("type", d) => Document.fill "type" kind (readKind d)
  | _ => .ok kind

/-- The fields of an attribute in order, after its type. -/
def ofItems (kind : Kind) (items : List Document) : Except DocumentError Attribute :=
  match kind with
  | .string => Document.finish .string items
  | .number => Document.finish .number items
  | .money => Document.finish .money items
  | .boolean => Document.finish .boolean items
  | .date => do
    let (format, rest) ← Document.firstD readFormat .datetime items
    Document.finish (.date format) rest
  | .choice => do
    let (options, rest) ← Document.firstD readOptions [] items
    Document.finish (.choice options) rest
  | .choices => do
    let (options, rest) ← Document.firstD readOptions [] items
    Document.finish (.choices options) rest
  | .lookup => do
    let (target, rest) ← Document.first Document.toText items
    let (reference, rest) ← Document.firstD readReference .objectId rest
    Document.finish (.lookup target reference) rest
  | .id => do
    let (reference, rest) ← Document.firstD readReference .objectId items
    Document.finish (.id reference) rest

/-- Every part of an attribute has to denote a value, also where nothing reads it. -/
def ofDocument (d : Document) : Except DocumentError Attribute :=
  if d.isReadable then
    match d with
    | .object members => do
      let kind ← Document.require "type" (← Document.foldMembers addKind none members)
      let draft ← Document.foldMembers (Draft.add kind) {} members
      draft.finish kind
    | .array [] => .error (.missingField "type")
    | .array (kind :: items) => do ofItems (← readKind kind) items
    | _ => .error .mismatch
  else .error .mismatch

def read (s : String) : Except DocumentError Attribute := Document.read ofDocument s

end Attribute
end RecordFilter
