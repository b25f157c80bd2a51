import Mathlib.Data.List.Infix
import RecordFilter.Filter.Operator
/-!
# Keys of operators

Operators are written by a table of fixed keys and by three starts with a unit behind them, and read
by another table and by cutting off the same starts. The two are inverse: the operator that is read
from a key has that key, and a known operator is read from its own. So a key that is read as no
known operator is the key of none.

## Main statements

* `Operator.key_ofKey` — the key of the operator that is read from a key.
* `Operator.ofKey_key` — the operator that is read from the key of a known one.
* `Operator.ofKey_eq_unknown_iff` — keys that are kept as they are.
-/
namespace RecordFilter

theorem Text.behind?_eq_some_iff {start s rest : String} :
    behind? start s = some rest ↔ start ++ rest = s := by
  simp only [behind?, Option.map_eq_some_iff, List.isPrefixOf?_eq_some_iff_append_eq]
  constructor
  · rintro ⟨cs, hcs, rfl⟩
    rw [String.ext_iff, String.toList_append, String.toList_ofList, hcs]
  · rintro rfl
    exact ⟨rest.toList, (String.toList_append ..).symm, String.ofList_toList⟩

theorem TimeUnit.key_of_ofKey? {s : String} {unit : TimeUnit} (h : ofKey? s = some unit) :
    unit.key = s := by
  simpa using List.find?_some h

namespace Operator

variable {s : String} {o : Operator}

/-! ## From keys to operators -/

/-- Behind the start of the key the unit is named. -/
theorem key_of_behind? {start rest : String} {make : TimeUnit → Operator}
    (hmake : ∀ unit, (make unit).key = start ++ unit.key)
    (hrest : Text.behind? start s = some rest)
    (h : (TimeUnit.ofKey? rest).map make = some o) : o.key = s := by
  obtain ⟨unit, hunit, rfl⟩ := Option.map_eq_some_iff.1 h
  rw [hmake, TimeUnit.key_of_ofKey? hunit, Text.behind?_eq_some_iff.1 hrest]

theorem key_of_ofCountingKey? (h : ofCountingKey? s = some o) : o.key = s := by
  unfold ofCountingKey? at h
  split at h
  case h_1 rest hrest => exact key_of_behind? (fun _ => rfl) hrest h
  split at h
  case h_1 rest hrest => exact key_of_behind? (fun _ => rfl) hrest h
  split at h
  case h_1 rest hrest => exact key_of_behind? (fun _ => rfl) hrest h
  case h_2 => cases h

/-- The operator that is read from a key has that key. -/
theorem key_ofKey (s : String) : (ofKey s).key = s := by
  unfold ofKey
  split
  case h_39 =>
    cases h : ofCountingKey? s with
    | none => rfl
    | some o => exact key_of_ofCountingKey? h
  all_goals rfl

/-! ## From operators to keys -/

/-- A known operator is read from its key. -/
theorem ofKey_key (h : o.isUnknown = false) : ofKey o.key = o := by
  cases o with
  | compare c => cases c <;> decide +kernel
  | pattern place negated => cases place <;> cases negated <;> decide +kernel
  | equality negated => cases negated <;> decide +kernel
  | nullity negated => cases negated <;> decide +kernel
  | membership negated => cases negated <;> decide +kernel
  | between => decide +kernel
  | date d =>
    cases d with
    | day side => cases side <;> decide +kernel
    | calendar range =>
      cases range with
      | period shift kind => cases shift <;> cases kind <;> decide +kernel
      | _ => decide +kernel
    | rolling direction unit => cases direction <;> cases unit <;> decide +kernel
  | unknown key => cases h

/-- A key is kept as it is exactly if no known operator has it. -/
theorem ofKey_eq_unknown_iff :
    ofKey s = .unknown s ↔ ∀ o : Operator, o.isUnknown = false → o.key ≠ s := by
  constructor
  · rintro h o ho rfl
    rw [← ofKey_key ho, h] at ho
    cases ho
  · intro h
    have hkey := key_ofKey s
    cases hread : ofKey s with
    | unknown key =>
      rw [hread] at hkey
      exact congrArg unknown hkey
    | _ => exact absurd hkey (h _ (by rw [hread]; rfl))

end Operator
end RecordFilter
