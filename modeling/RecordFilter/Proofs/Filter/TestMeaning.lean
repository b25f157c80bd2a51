import RecordFilter.Proofs.Filter.ScalarKinds
import RecordFilter.Proofs.Filter.WholeMillis
/-!
# What tests mean

What a test says of the value of a field, without regard to any database: the common ground of
documents and rows. A field without a value meets a test only if the test is negated or asks for
that.

## Main definitions

* `Value.members` — the stored values that a field holds.
* `Test.Holds` — the meaning of a test.
* `Scalar.IsStored`, `Test.IsStored` — values and tests whose values have a written form.
-/
namespace RecordFilter

/-- The values of a field: one, or those of a list. -/
def Value.members : Option Value → List Scalar
  | none => []
  | some (.scalar s) => [s]
  | some (.list ss) => ss

namespace Scalar

/-- The comparison holds of two values that are in order. -/
def Compares (c : Comparator) (s t : Scalar) : Prop :=
  ∃ o, s.compare? t = some o ∧ c.accepts o = true

/-- The instant that an instant or the start of a date stands for. -/
def instant? : Scalar → Option Instant
  | .timestamp t => some t
  | .date d => some (.midnight d)
  | _ => none

/-- Numbers and times as databases keep them. -/
def IsStored : Scalar → Prop
  | .number n => n.IsStored
  | .timestamp t => t.IsStored
  | .date d => (Moment.midnight d).IsStored
  | _ => True

end Scalar

/-- The values of a field are of one kind and have a written form. -/
def Value.AreStored (k : ScalarKind) (v : Option Value) : Prop :=
  ∀ w ∈ Value.members v, w.kind = k ∧ w.IsStored

/-- The value is one of the truth values, where false also stands for no value. -/
def Flags.Covers (f : Flags) : Option Value → Prop
  | none => f.wantsFalse = true
  | some (.scalar (.bool true)) => f.wantsTrue = true
  | some (.scalar (.bool false)) => f.wantsFalse = true
  | _ => False

def UpperBound.comparator : UpperBound → Comparator
  | .inclusive _ => .lte
  | .exclusive _ => .lt

/-- The value is a text in which another one occurs. -/
def Value.HasText (same : Char → Char → Bool) (anchor : Anchor) (text : String)
    (v : Option Value) : Prop :=
  ∃ s, v = some (.scalar (.text s)) ∧
    Text.Occurs same anchor.atStart anchor.atEnd text.toList s.toList

/-- The value, or one in the list, is equal to one of the values. -/
def Value.IsAmong (ss : List Scalar) (v : Option Value) : Prop :=
  ∃ s ∈ ss, ∃ w ∈ Value.members v, w.Compares .eq s

/-- The value is a time within the window. -/
def Value.IsWithin (w : Window) (v : Option Value) : Prop :=
  ∃ s ∈ Value.members v, ∃ t, s.instant? = some t ∧ w.Contains t

theorem Moment.IsStored.isWhole {t : Instant} (h : t.IsStored) : t.IsWhole := ⟨h.1, h.2.1⟩

namespace Test

def Holds (same : Char → Char → Bool) (v : Option Value) : Test → Prop
  | .compare c s => ∃ w ∈ Value.members v, w.Compares c.comparator s
  | .pattern anchor text false => Value.HasText same anchor text v
  | .pattern anchor text true => v ≠ none ∧ ¬ Value.HasText same anchor text v
  | .sameText text negated => Value.HasText same .whole text v ↔ negated = false
  | .equal s negated => Value.IsAmong [s] v ↔ negated = false
  | .contains s negated => Value.IsAmong [s] v ↔ negated = false
  | .isNull negated => v = none ↔ negated = false
  | .member ss negated => Value.IsAmong ss v ↔ negated = false
  | .containsAny ss negated => Value.IsAmong ss v ↔ negated = false
  | .flags f negated => f.Covers v ↔ negated = false
  | .range low high =>
    (∃ w ∈ Value.members v, w.Compares .gte low) ∧
      ∃ w ∈ Value.members v, w.Compares high.comparator high.scalar
  | .window w => Value.IsWithin w v
  | .wholeDays w => Value.IsWithin w v

def window? : Test → Option Window
  | .window w => some w
  | .wholeDays w => some w
  | _ => none

/-- The bounds of the window of a test, if it has one. -/
def bounds (t : Test) : List Instant :=
  match t.window? with
  | some w => w.start?.toList ++ w.finish?.toList
  | none => []

/-- Every value of the test is one that databases keep. -/
structure IsStored (t : Test) : Prop where
  scalars : ∀ s ∈ t.scalars, s.IsStored
  bounds : ∀ b ∈ t.bounds, Moment.IsStored b

end Test

/-- The kind of the values of a field of dates or of instants. -/
def timeKind (dateOnly : Bool) : ScalarKind := if dateOnly then .date else .timestamp

namespace Attribute

/-- Whether an attribute can be without a value or hold the given one. -/
def Allows (a : Attribute) (v : Option Value) : Prop := ∀ x, v = some x → a.Admits x

variable {a : Attribute} {v : Option Value}

theorem isStored_of_discriminantAdmits {d : Discriminant} {s : Scalar}
    (h : discriminantAdmits d s) : s.IsStored := by
  cases d <;> cases s <;> trivial

theorem isStored_of_referenceAdmits {r : ReferenceKind} {s : Scalar} (h : referenceAdmits r s) :
    s.IsStored := by
  cases r <;> cases s <;> trivial

theorem isStored_of_admits {s : Scalar} (h : a.Admits (.scalar s)) : s.IsStored := by
  cases a with
  | choice options => exact isStored_of_discriminantAdmits h
  | choices options => exact absurd h (by simp [Admits])
  | lookup target reference => exact isStored_of_referenceAdmits h
  | id reference => exact isStored_of_referenceAdmits h
  | date format =>
    cases format <;> cases s <;> trivial
  | _ => cases s <;> trivial

theorem kind_of_admits_list {ss : List Scalar} (h : a.Admits (.list ss)) : a.kind = .choices := by
  cases a with
  | choices options => rfl
  | date format => cases format <;> simp [Admits] at h
  | _ => simp [Admits] at h

/-- The values of a field have the kind of its attribute and a written form. -/
theorem Allows.areStored (h : a.Allows v) : Value.AreStored a.scalarKind v := by
  intro w hw
  match v, h with
  | none, _ => simp [Value.members] at hw
  | some (.scalar s), h =>
    obtain rfl : w = s := by simpa [Value.members] using hw
    have := h _ rfl
    exact ⟨kind_of_admits this, isStored_of_admits this⟩
  | some (.list ss), h =>
    have hlist := h _ rfl
    cases a with
    | choices options =>
      have := hlist w hw
      exact ⟨kind_of_discriminantAdmits this, isStored_of_discriminantAdmits this⟩
    | date format => cases format <;> simp [Admits] at hlist
    | _ => simp [Admits] at hlist

/-- A field that is not a choice of several holds one value or none. -/
theorem Allows.eq_scalar (h : a.Allows v) (ha : a.kind ≠ .choices) :
    v = none ∨ ∃ s, v = some (.scalar s) := by
  match v, h with
  | none, _ => exact Or.inl rfl
  | some (.scalar s), _ => exact Or.inr ⟨s, rfl⟩
  | some (.list ss), h => exact absurd (kind_of_admits_list (h _ rfl)) ha

theorem Allows.eq_list (h : a.Allows v) (ha : a.kind = .choices) :
    v = none ∨ ∃ ss, v = some (.list ss) := by
  match v, h with
  | none, _ => exact Or.inl rfl
  | some (.list ss), _ => exact Or.inr ⟨ss, rfl⟩
  | some (.scalar s), h =>
    have := h _ rfl
    cases a <;> simp_all [Admits, kind]

theorem Allows.eq_bool (h : a.Allows v) (ha : a.kind = .boolean) :
    v = none ∨ ∃ b, v = some (.scalar (.bool b)) := by
  rcases h.eq_scalar (by simp [ha]) with rfl | ⟨s, rfl⟩
  · exact Or.inl rfl
  · have hs := h _ rfl
    cases a <;> simp [kind] at ha
    cases s <;> first | exact Or.inr ⟨_, rfl⟩ | exact absurd hs (by simp [Admits])

theorem kind_of_isText (a : Attribute) (h : a.isText = true) : a.kind ≠ .choices := by
  cases a <;> simp_all [isText, kind]

theorem Allows.eq_text (h : a.Allows v) (ha : a.isText = true) :
    v = none ∨ ∃ s, v = some (.scalar (.text s)) := by
  have hkind : a.scalarKind = .text := by
    cases a <;> simp_all [isText, scalarKind, Discriminant.scalarKind]
  rcases h.eq_scalar (a.kind_of_isText ha) with rfl | ⟨s, rfl⟩
  · exact Or.inl rfl
  · have hs := (kind_of_admits (h _ rfl)).trans hkind
    cases s <;> first | exact Or.inr ⟨_, rfl⟩ | cases hs

theorem kind_of_isOrdered (a : Attribute) (h : a.isOrdered = true) : a.kind ≠ .choices := by
  cases a <;> simp_all [isOrdered, isNumeric, isDate, kind]

theorem kind_of_isDate (a : Attribute) (h : a.isDate = true) : a.kind ≠ .choices := by
  cases a <;> simp_all [isDate, kind]

/-- A field of times holds a date, with the instant at which it starts, or an instant. -/
theorem Allows.eq_time (h : a.Allows v) (ha : a.isDate = true) :
    v = none ∨ ∃ s u, v = some (.scalar s) ∧ s.kind = timeKind a.isDateOnly ∧
      s.instant? = some u ∧ Moment.IsStored u := by
  rcases h.eq_scalar (a.kind_of_isDate ha) with rfl | ⟨s, rfl⟩
  · exact Or.inl rfl
  · have hs := h _ rfl
    cases a with
    | date format =>
      cases format <;> cases s <;>
        first
        | exact Or.inr ⟨_, _, rfl, rfl, rfl, hs⟩
        | exact absurd hs (by simp [Admits])
    | _ => simp [isDate, kind] at ha

theorem scalarKind_of_isDate (a : Attribute) (h : a.isDate = true) :
    a.scalarKind = .date ∨ a.scalarKind = .timestamp := by
  cases a with
  | date format => cases format <;> simp [scalarKind, DateFormat.scalarKind]
  | _ => simp [isDate, kind] at h

end Attribute
end RecordFilter
