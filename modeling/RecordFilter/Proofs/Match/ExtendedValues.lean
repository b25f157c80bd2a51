import RecordFilter.Proofs.Filter.TestMeaning
import RecordFilter.Proofs.Filter.CutWindows
import RecordFilter.Proofs.Calendar.CalendarLimits
/-!
# Values in extended form

A stored value is read back from its extended form, a date as the instant at which it starts. So
extended values are in the order of the values they write, and what a document finds at a path
tells which values the field has.

## Main statements

* `Scalar.toScalar?_toJson`, `Scalar.compare?_toJson` — values read back and compared.
* `Scalar.toOperand_eq` — stored values as operands.
* `Value.IsFoundAs` — how a document shows the value of a field.
-/
namespace RecordFilter

theorem Moment.IsStored.isProper {t : Instant} (h : t.IsStored) : t.IsProper :=
  h.isWhole.isProper

theorem Moment.IsStored.toMillis {t : Instant} (h : t.IsStored) : t.toMillis = t :=
  toMillis_eq_self h.1

theorem Moment.IsStored.ofText?_millisText {t : Instant} (h : t.IsStored) :
    Moment.ofText? t.millisText = some t := by
  rw [Moment.ofText?_millisText h.isProper h.2.2.1 h.2.2.2, h.toMillis]

namespace Scalar

/-- The value that is read back. -/
def shown : Scalar → Scalar
  | .date d => .timestamp (.midnight d)
  | s => s

theorem toScalar?_toJson {s : Scalar} (h : s.IsStored) : s.toJson.toScalar? = some s.shown := by
  cases s with
  | timestamp t => simp [toJson, Json.toScalar?, shown, Moment.IsStored.ofText?_millisText h]
  | date d => simp [toJson, Json.toScalar?, shown, Moment.IsStored.ofText?_millisText h]
  | _ => rfl

theorem compare?_shown {s t : Scalar} (h : s.kind = t.kind) :
    s.shown.compare? t.shown = s.compare? t := by
  cases s <;> cases t <;> first | rfl | exact congrArg some (Moment.order_midnight _ _) | cases h

variable {s t : Scalar}

/-- Extended values are in the order of the values they write. -/
theorem compare?_toJson (hs : s.IsStored) (ht : t.IsStored) (h : s.kind = t.kind) :
    s.toJson.compare? t.toJson = s.compare? t := by
  simp only [Json.compare?, toScalar?_toJson hs, toScalar?_toJson ht, compare?_shown h]

/-- A time against an instant, as documents compare them. -/
theorem compare?_toJson_timestamp {b u : Instant} (hs : s.IsStored) (hb : b.IsStored)
    (h : s.instant? = some u) : s.toJson.compare? (timestamp b).toJson = some (u.order b) := by
  have hb' : (timestamp b).IsStored := hb
  simp only [Json.compare?, toScalar?_toJson hs, toScalar?_toJson hb']
  cases s <;> simp_all [instant?, shown, compare?]

/-- A date that is stored lies in the calendar, so it has a start. -/
theorem toOperand_eq (h : s.IsStored) : s.toOperand = s.toJson := by
  cases s with
  | date d =>
    obtain ⟨-, -, hfirst, hlast⟩ := h
    rw [Moment.date_midnight] at hfirst hlast
    have hcivil := Date.ofCivil?_civil d (Int.le_trans (by decide) hfirst)
      (Int.le_trans hlast (by decide))
    simp only [toOperand, Zone.midnight_utc (Date.inCalendar_of_ofCivil? hcivil)]
    rfl
  | _ => rfl

@[simp] theorem isNull_toJson (s : Scalar) : s.toJson.isNull = false := by
  cases s <;> rfl

end Scalar

namespace Value

/-- A value is found in its extended form; no value is not found, or found as null. -/
def IsFoundAs : Option Value → Option Json → Prop
  | none, found => found = none ∨ found = some .null
  | some x, found => found = some x.toJson

variable {v : Option Value} {found : Option Json}

theorem candidates_toJson (x : Value) :
    Json.candidates (some x.toJson) = (members (some x)).map Scalar.toJson := by
  cases x with
  | scalar s => cases s <;> rfl
  | list ss => rfl

/-- What holds of no null holds of a candidate exactly if it holds of a value of the field. -/
theorem IsFoundAs.any_candidates (h : IsFoundAs v found) {p : Json → Bool}
    (hp : p .null = false) :
    (Json.candidates found).any p = (members v).any fun s => p s.toJson := by
  cases v with
  | none => rcases h with rfl | rfl <;> simp [Json.candidates, members, hp]
  | some x =>
    obtain rfl : found = some x.toJson := h
    simp [candidates_toJson, List.any_map, Function.comp_def]

theorem IsFoundAs.equals_null (h : IsFoundAs v found) :
    Json.fieldEquals found .null = true ↔ v = none := by
  cases v with
  | none => rcases h with rfl | rfl <;> simp [Json.fieldEquals, Json.isNull, Json.candidates]
  | some x =>
    obtain rfl : found = some x.toJson := h
    have hnull : x.toJson.isNull = false := by
      cases x with
      | scalar s => exact s.isNull_toJson
      | list ss => rfl
    have hnone : Json.null.isNull = true := rfl
    simp [Json.fieldEquals, hnone, candidates_toJson, hnull]

theorem IsFoundAs.isSome_of_ne (h : IsFoundAs v found) (hv : v ≠ none) : found.isSome = true := by
  cases v with
  | none => exact absurd rfl hv
  | some x =>
    obtain rfl : found = some x.toJson := h
    rfl

end Value
end RecordFilter
