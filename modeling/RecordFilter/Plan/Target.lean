import RecordFilter.Match.Transform
import RecordFilter.Sql.Transform
import RecordFilter.Schema.Store
/-!
# Targets

What a kind of database contributes to a plan: how fields and related records are addressed, which
predicate a condition becomes, and how predicates are joined.

Each target reads the values of conditions on its own. That all of them ask the same tests of the
same fields is a law that comes with a target.
-/
namespace RecordFilter

structure Target (P : Type) where
  /-- The qualifier of the fields of the entity itself. -/
  qualifier : Schema → Option String
  /-- The name under which the record is found that a lookup field of a schema leads to. -/
  handle : (field : String) → (related : Schema) → String
  /-- The predicate of a condition; an unknown operator has none. -/
  transform : ConditionInput → Except ValueError (Option P)
  /-- The predicate that asks a test of a field, which may hold dates only. -/
  ofTest : (dateOnly : Bool) → FieldRef → Test → Except ValueError P
  /-- A condition becomes the predicate of the test that it asks. -/
  transform_eq : ∀ i, transform i = i.ask (ofTest i.type.isDateOnly i.field)
  join : Connective → List P → P

/-- The name under which the rows of a related schema are joined. -/
def Schema.relationName (related : Schema) (field : String) : String :=
  field ++ "_" ++ related.logicalName

namespace Target

/-- Document stores. Related records are found under the lookup field behind a prefix. -/
def document : Target Match where
  qualifier _ := none
  handle field _ := "@expand." ++ field
  transform := Match.transform
  ofTest _ field test := .ok (Match.ofTest field.path test)
  transform_eq := Match.transform_eq
  join := Match.join

/-- Relational databases. Pattern tests ignore letter case natively where the dialect can. -/
def relational (d : Dialect) : Target Clause where
  qualifier schema := some schema.logicalName
  handle field related := related.relationName field
  transform := Clause.transform d.hasILike
  ofTest dateOnly column test := Clause.ofTest d.hasILike dateOnly column test
  transform_eq := Clause.transform_eq d.hasILike
  join := Clause.join

end Target
end RecordFilter
