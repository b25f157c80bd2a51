import RecordFilter.Filter.Tree
import RecordFilter.Filter.Operator
import RecordFilter.Json.Reading
/-!
# Filters

A condition asks something of one field of a record, or of a field of the record that a lookup
leads to. A filter is a tree of conditions.

## Main definitions

* `Condition`, `Filter`.
* `Filter.ofDocument`, `Filter.toJson` — reading and writing. A node may leave out its kind, which
  is then *and*, and its lists, which are then empty; empty lists are not written.
-/
namespace RecordFilter

structure Condition where
  field : String
  operator : Operator
  value : Json
  /-- The attribute that is asked about of the record that `field` leads to. -/
  extendedKey : Option String
  deriving Repr

abbrev Filter := Tree Condition

namespace Condition

/-- The name of the field in messages. -/
def displayField (c : Condition) : String :=
  match c.extendedKey with
  | some key => c.field ++ "." ++ key
  | none => c.field

def toJson (c : Condition) : Json :=
  .object <|
    [("field", .string c.field), ("operator", .string c.operator.key), ("value", c.value)] ++
      (c.extendedKey.map fun key => ("extendedKey", Json.string key)).toList

/-! ## Reading -/

def readOperator (d : Document) : Except DocumentError Operator := d.toText.map Operator.ofKey

def readKey : Document → Except DocumentError (Option String) := Document.toOption Document.toText

/-- The fields of a condition that have been met. -/
structure Draft where
  field : Option String := none
  operator : Option Operator := none
  value : Option Json := none
  extendedKey : Option (Option String) := none

def Draft.add (draft : Draft) : String × Document → Except DocumentError Draft
  | ("field", d) => do
    return { draft with field := ← Document.fill "field" draft.field d.toText }
  | ("operator", d) => do
    return { draft with operator := ← Document.fill "operator" draft.operator (readOperator d) }
  | ("value", d) => do
    return { draft with value := ← Document.fill "value" draft.value d.toValue }
  | ("extendedKey", d) => do
    return { draft with
      extendedKey := ← Document.fill "extendedKey" draft.extendedKey (readKey d) }
  | _ => .ok draft

def Draft.finish (draft : Draft) : Except DocumentError Condition := do
  let field ← Document.require "field" draft.field
  let operator ← Document.require "operator" draft.operator
  return ⟨field, operator, draft.value.getD .null, draft.extendedKey.getD none⟩

def ofDocument : Document → Except DocumentError Condition
  | .object members => do (← Document.foldMembers Draft.add {} members).finish
  | .array items => do
    let (field, rest) ← Document.first Document.toText items
    let (operator, rest) ← Document.first readOperator rest
    let (value, rest) ← Document.firstD Document.toValue .null rest
    let (extendedKey, rest) ← Document.firstD readKey none rest
    Document.finish ⟨field, operator, value, extendedKey⟩ rest
  | _ => .error .mismatch

def read (s : String) : Except DocumentError Condition := Document.read ofDocument s

end Condition

namespace Connective

def key : Connective → String
  | .and => "and"
  | .or => "or"

def table : List (String × Connective) := [("and", .and), ("or", .or)]

def ofDocument : Document → Except DocumentError Connective := Document.toNamed table

end Connective

namespace Filter

/-! ## Writing -/

mutual

def toJson : Tree Condition → Json
  | .node kind conditions filters =>
    .object <|
      ("type", .string kind.key) ::
        (if conditions.isEmpty then []
          else [("conditions", .array (conditions.map Condition.toJson))]) ++
        (if filters.isEmpty then [] else [("filters", .array (toJsonAll filters))])

def toJsonAll : List (Tree Condition) → List Json
  | [] => []
  | f :: rest => toJson f :: toJsonAll rest

end

/-! ## Reading -/

/-- The fields of a node that have been met. -/
structure Draft where
  kind : Option Connective := none
  conditions : Option (List Condition) := none
  filters : Option (List Filter) := none

def Draft.finish (draft : Draft) : Filter :=
  .node (draft.kind.getD .and) (draft.conditions.getD []) (draft.filters.getD [])

def readConditions : Document → Except DocumentError (List Condition) :=
  Document.toList Condition.ofDocument

mutual

def ofDocument : Document → Except DocumentError Filter
  | .object members => (readMembers {} members).map Draft.finish
  | .array [] => .ok (Draft.finish {})
  | .array [kind] => do
    return .node (← Connective.ofDocument kind) [] []
  | .array [kind, conditions] => do
    return .node (← Connective.ofDocument kind) (← readConditions conditions) []
  | .array (kind :: conditions :: filters :: rest) => do
    let kind ← Connective.ofDocument kind
    let conditions ← readConditions conditions
    let filters ← readFilters filters
    Document.finish (.node kind conditions filters) rest
  | _ => .error .mismatch

def readMembers (draft : Draft) :
    List (Option String × Document) → Except DocumentError Draft
  | [] => .ok draft
  | (name, d) :: rest =>
    match name with
    | some "type" => do
      let kind ← Document.fill "type" draft.kind (Connective.ofDocument d)
      readMembers { draft with kind := kind } rest
    | some "conditions" => do
      let conditions ← Document.fill "conditions" draft.conditions (readConditions d)
      readMembers { draft with conditions := conditions } rest
    | some "filters" => do
      let filters ← Document.fill "filters" draft.filters (readFilters d)
      readMembers { draft with filters := filters } rest
    | some _ => readMembers draft rest
    | none => .error .mismatch

def readFilters : Document → Except DocumentError (List Filter)
  | .array items => readAll items
  | _ => .error .mismatch

def readAll : List Document → Except DocumentError (List Filter)
  | [] => .ok []
  | d :: rest => do
    let f ← ofDocument d
    let fs ← readAll rest
    return f :: fs

end

def read (s : String) : Except DocumentError Filter := Document.read ofDocument s

end Filter
end RecordFilter
