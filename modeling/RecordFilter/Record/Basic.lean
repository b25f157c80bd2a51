import RecordFilter.Plan.Basic
import RecordFilter.Match.Evaluation
import RecordFilter.Sql.Evaluation
/-!
# Records

A record of an entity with the records that its lookups lead to, and the two forms in which
databases keep it: a document in which the related records are expanded, and a row joined with the
rows of its relations.

## Main definitions

* `Value`, `Record`.
* `Attribute.Admits`, `Record.IsTyped` — values of the type that the schema gives.
* `Record.document`, `Record.row` — the two forms.
* `Plan.selects` — the records that a plan selects.
-/
namespace RecordFilter

/-- What an attribute holds. -/
inductive Value where
  | scalar (s : Scalar)
  | list (ss : List Scalar)
  deriving DecidableEq, Repr

/-- The values of attributes by name. An attribute may be null, and one that is not listed is
missing. -/
abbrev Values := List (String × Option Value)

namespace Values

def get? (values : Values) (name : String) : Option Value := (Entries.lookup? name values).join

end Values

structure Record where
  values : Values
  /-- The records that lookups lead to, by the field of the lookup. -/
  related : List (String × Values)
  deriving Repr

/-! ## Types -/

/-- A number that is finite, and whose form is that of a document. -/
def Number.IsStored : Number → Prop
  | .int z => fitsInt64 z = true
  | .float x => x.isFinite = true

/-- An instant is kept to the millisecond; leap seconds and years without four digits are not
kept. -/
def Moment.IsStored (t : Instant) : Prop :=
  t.nano % 1000000 = 0 ∧ t.isLeapSecond = false ∧ 0 ≤ t.date.civil.year ∧ t.date.civil.year ≤ 9999

namespace Attribute

/-- Whether a value is one of those that a choice offers the kind of. -/
def discriminantAdmits : Discriminant → Scalar → Prop
  | .string, .text _ => True
  | .number, .number n => n.IsStored
  | _, _ => False

def referenceAdmits : ReferenceKind → Scalar → Prop
  | .objectId, .objectId hex => Scalar.isObjectId hex ∧ Text.lowerAscii hex = hex
  | .string, .text _ => True
  | .number, .number n => n.IsStored
  | _, _ => False

/-- Whether an attribute can hold a value. -/
def Admits : Attribute → Value → Prop
  | .string, .scalar (.text _) => True
  | .number, .scalar (.number n) => n.IsStored
  | .money, .scalar (.number n) => n.IsStored
  | .boolean, .scalar (.bool _) => True
  | .date .date, .scalar (.date d) => (Moment.midnight d).IsStored
  | .date .datetime, .scalar (.timestamp t) => t.IsStored
  | .choice options, .scalar s => discriminantAdmits (discriminantOf options) s
  | .choices options, .list ss => ∀ s ∈ ss, discriminantAdmits (discriminantOf options) s
  | .lookup _ reference, .scalar s => referenceAdmits reference s
  | .id reference, .scalar s => referenceAdmits reference s
  | _, _ => False

end Attribute

/-- Every value is one that its attribute can hold. -/
def Values.IsTyped (schema : Schema) (values : Values) : Prop :=
  ∀ name a v, schema.attribute? name = some a → values.get? name = some v → a.Admits v

/-- The record and those it leads to have values of the types that their schemas give. -/
def Record.IsTyped (store : Store) (schema : Schema) (r : Record) : Prop :=
  r.values.IsTyped schema ∧
    ∀ field target reference related values,
      schema.attribute? field = some (.lookup target reference) →
      store.get? target = some related → (field, values) ∈ r.related → Values.IsTyped related values

/-! ## Documents -/

namespace Value

def toJson : Value → Json
  | .scalar s => s.toJson
  | .list ss => .array (ss.map Scalar.toJson)

def cell : Option Value → Cell
  | none => .null
  | some (.scalar s) => .value (Clause.value s)
  | some (.list ss) => .array (ss.map Clause.value)

end Value

def Values.document (values : Values) : Json :=
  .object (values.map fun (name, v) => (name, (v.map Value.toJson).getD .null))

namespace Record

def relatedValues (r : Record) (field : String) : Values :=
  (Entries.lookup? field r.related).getD []

/-- The record as a document, the records it leads to under one name. -/
def document (r : Record) : Json :=
  .object <|
    r.values.map (fun (name, v) => (name, (v.map Value.toJson).getD .null)) ++
      [("@expand", .object (r.related.map fun (field, values) => (field, values.document)))]

/-! ## Rows -/

/-- The lookup field of a schema whose related records are joined under a name. -/
def joinedField? (store : Store) (handle : String) : List (String × Attribute) → Option String
  | [] => none
  | (field, .lookup target _) :: rest =>
    match store.get? target with
    | some related =>
      if related.relationName field = handle then some field
      else joinedField? store handle rest
    | none => joinedField? store handle rest
  | _ :: rest => joinedField? store handle rest

/-- The record as a row: its own columns under the name of its schema, those of the records it
leads to under the names of their relations. -/
def row (store : Store) (schema : Schema) (r : Record) : Row := fun column =>
  match column.qualifier with
  | none => .null
  | some table =>
    if table = schema.logicalName then Value.cell (r.values.get? column.name)
    else
      match joinedField? store table schema.attributes with
      | some field => Value.cell ((r.relatedValues field).get? column.name)
      | none => .null

end Record

/-! ## Selection -/

/-- Without a predicate, every record is selected. -/
def Plan.selects {P : Type} (holds : P → Bool) (p : Plan P) : Bool := p.predicate.all holds

end RecordFilter
