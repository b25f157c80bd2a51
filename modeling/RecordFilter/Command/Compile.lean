import RecordFilter.Plan.Basic
import RecordFilter.Settings.Basic
/-!
# Compiling documents

A document of schemas and a filter document become the written form of a plan for the records of an
entity.
-/
namespace RecordFilter

/-- The kinds of database a plan is made for. -/
inductive Adapter where
  | document
  | relational
  deriving DecidableEq, Repr

/-- The part of the work in which a fault came up. -/
inductive Stage where
  | loadSchemas | findEntity | parseFilter | compileFilter
  deriving DecidableEq, Repr

def Stage.context? : Stage → Option String
  | .loadSchemas => some "Failed to load schema document"
  | .findEntity => none
  | .parseFilter => some "Failed to parse filter"
  | .compileFilter => some "Failed to compile filter"

structure CompileFailure where
  stage : Stage
  error : FilterError
  deriving Repr

namespace CompileFailure

/-- The outermost description of the fault. -/
def context (f : CompileFailure) : String := f.stage.context?.getD f.error.message

/-- All that is known of the fault, from the outside in. -/
def message (f : CompileFailure) : String :=
  match f.stage.context? with
  | some context => context ++ ": " ++ f.error.message
  | none => f.error.message

end CompileFailure

/-- What is to be compiled, for which entity, and when relative dates are measured from. -/
structure CompileRequest where
  schemas : String
  filter : String
  entity : String
  adapter : Adapter
  now : Instant

namespace CompileRequest

/-- What a request asks for, once its documents have been read. -/
structure Prepared where
  store : Store
  schema : Schema
  filter : Filter

def prepare (r : CompileRequest) (s : Settings) : Except CompileFailure Prepared := do
  let store ←
    match Store.ofText r.schemas with
    | .ok store => .ok store
    | .error fault => .error ⟨.loadSchemas, .invalidSchema fault⟩
  let schema ←
    match store.get? r.entity with
    | some schema => .ok schema
    | none => .error ⟨.findEntity, .schemaNotFound r.entity⟩
  let filter ←
    match s.limits.read r.filter with
    | .ok filter => .ok filter
    | .error fault => .error ⟨.parseFilter, .invalidFilter fault⟩
  return ⟨store, schema, filter⟩

def compiler {P : Type} (r : CompileRequest) (s : Settings) (store : Store) (target : Target P) :
    Compiler P :=
  ⟨target, store, r.now, s.timezone, s.calendar⟩

def relationsJson (relations : List Relation) : String × Json :=
  ("relations", .array (relations.map Relation.toJson))

/-- Without a predicate, the match is empty. -/
def documentJson (plan : Plan Match) : Json :=
  .object [("predicate", (plan.predicate.map Match.toJson).getD (.object [])),
    relationsJson plan.relations]

/-- Without a predicate, the clause is true. -/
def relationalJson (d : Dialect) (plan : Plan Clause) : Json :=
  .object [("dialect", .string d.name),
    ("sql", .string ((plan.predicate.map (Clause.text d)).getD "1=1")),
    ("params", .array (((plan.predicate.map Clause.params).getD []).map SqlValue.toJson)),
    relationsJson plan.relations]

variable [ZoneSource]

def planJson (r : CompileRequest) (s : Settings) (p : Prepared) : Except FilterError Json :=
  match r.adapter with
  | .document => do
    return documentJson (← (r.compiler s p.store Target.document).plan p.schema p.filter)
  | .relational => do
    return relationalJson s.dialect
      (← (r.compiler s p.store (Target.relational s.dialect)).plan p.schema p.filter)

/-- The written form of the plan. -/
def run (r : CompileRequest) (s : Settings) : Except CompileFailure Json := do
  let p ← r.prepare s
  match r.planJson s p with
  | .ok v => .ok v
  | .error e => .error ⟨.compileFilter, e⟩

/-- What is reported on the way. -/
def journal (r : CompileRequest) (s : Settings) : List LogEntry :=
  match r.prepare s with
  | .error _ => []
  | .ok p =>
    match r.adapter with
    | .document => (r.compiler s p.store Target.document).journal p.schema p.filter
    | .relational => (r.compiler s p.store (Target.relational s.dialect)).journal p.schema p.filter

end CompileRequest
end RecordFilter
