import RecordFilter.Record.Basic
import RecordFilter.Proofs.Filter.AskedTests
/-!
# Kinds of stored values

Every attribute stores values of one kind, and a value that is brought to the form of an attribute
has its kind. So the tests that a condition asks compare a field with values of its own kind only.

## Main statements

* `Attribute.kind_of_coerce`, `Attribute.kind_of_admits` — values of the kind of their attribute.
* `ConditionInput.fits_of_test` — tests with values of the kind of their attribute.
-/
namespace RecordFilter

inductive ScalarKind where
  | text | number | bool | timestamp | date | objectId
  deriving DecidableEq, Repr

def Scalar.kind : Scalar → ScalarKind
  | .text _ => .text
  | .number _ => .number
  | .bool _ => .bool
  | .timestamp _ => .timestamp
  | .date _ => .date
  | .objectId _ => .objectId

def Discriminant.scalarKind : Discriminant → ScalarKind
  | .string => .text
  | .number => .number

def ReferenceKind.scalarKind : ReferenceKind → ScalarKind
  | .objectId => .objectId
  | .string => .text
  | .number => .number

def DateFormat.scalarKind : DateFormat → ScalarKind
  | .date => .date
  | .datetime => .timestamp

theorem Scalar.kind_of_ofText {v : Json} {s : Scalar} (h : ofText v = .ok s) : s.kind = .text := by
  cases v <;> simp [ofText] at h <;> rw [← h] <;> rfl

theorem Scalar.kind_of_ofNumber {v : Json} {s : Scalar} (h : ofNumber v = .ok s) :
    s.kind = .number := by
  unfold ofNumber at h
  split at h
  · cases h
    rfl
  · split at h
    · cases h
      rfl
    · cases h
  · cases h

theorem Scalar.kind_of_ofBoolean {v : Json} {s : Scalar} (h : ofBoolean v = .ok s) :
    s.kind = .bool := by
  unfold ofBoolean at h
  split at h
  · cases h
    rfl
  · cases h

theorem Scalar.kind_of_ofDate {c : DateContext} {format : DateFormat} {v : Json} {s : Scalar}
    (h : ofDate c format v = .ok s) : s.kind = format.scalarKind := by
  unfold ofDate at h
  split at h
  · split at h <;> split at h <;> cases h <;> rfl
  · cases h

theorem Scalar.kind_of_ofReference {kind : ReferenceKind} {v : Json} {s : Scalar}
    (h : ofReference kind v = .ok s) : s.kind = kind.scalarKind := by
  unfold ofReference at h
  split at h
  · cases h
  · split at h
    · split at h
      · cases h
        rfl
      · cases h
    · exact kind_of_ofText h
    · exact kind_of_ofNumber h

namespace Attribute

/-- The kind of the values that an attribute stores, or of their elements. -/
def scalarKind : Attribute → ScalarKind
  | .string => .text
  | .number => .number
  | .money => .number
  | .boolean => .bool
  | .date format => format.scalarKind
  | .choice options => (discriminantOf options).scalarKind
  | .choices options => (discriminantOf options).scalarKind
  | .lookup _ reference => reference.scalarKind
  | .id reference => reference.scalarKind

theorem kind_of_ofDiscriminant {d : Discriminant} {v : Json} {s : Scalar}
    (h : coerce.ofDiscriminant d v = .ok s) : s.kind = d.scalarKind := by
  cases d with
  | string => exact Scalar.kind_of_ofText h
  | number => exact Scalar.kind_of_ofNumber h

/-- A value in the form of an attribute has its kind. -/
theorem kind_of_coerce {a : Attribute} {c : DateContext} {v : Json} {s : Scalar}
    (h : a.coerce c v = .ok s) : s.kind = a.scalarKind := by
  cases a with
  | string => exact Scalar.kind_of_ofText h
  | number => exact Scalar.kind_of_ofNumber h
  | money => exact Scalar.kind_of_ofNumber h
  | boolean => exact Scalar.kind_of_ofBoolean h
  | date format => exact Scalar.kind_of_ofDate h
  | choice options => exact kind_of_ofDiscriminant h
  | choices options => exact kind_of_ofDiscriminant h
  | lookup target reference => exact Scalar.kind_of_ofReference h
  | id reference => exact Scalar.kind_of_ofReference h

theorem kind_of_yields {a : Attribute} {c : DateContext} {v : Json} {s : Scalar}
    (h : a.Yields c v s) : s.kind = a.scalarKind := by
  obtain ⟨w, -, hw⟩ | ⟨rfl, t, rfl⟩ := h
  · exact kind_of_coerce hw
  · rfl

theorem kind_of_discriminantAdmits {d : Discriminant} {s : Scalar}
    (h : discriminantAdmits d s) : s.kind = d.scalarKind := by
  cases d <;> cases s <;> first | rfl | exact absurd h (by simp [discriminantAdmits])

theorem kind_of_referenceAdmits {r : ReferenceKind} {s : Scalar} (h : referenceAdmits r s) :
    s.kind = r.scalarKind := by
  cases r <;> cases s <;> first | rfl | exact absurd h (by simp [referenceAdmits])

/-- An attribute holds values of its kind. -/
theorem kind_of_admits {a : Attribute} {s : Scalar} (h : a.Admits (.scalar s)) :
    s.kind = a.scalarKind := by
  cases a with
  | choice options => exact kind_of_discriminantAdmits h
  | choices options => exact absurd h (by simp [Admits])
  | lookup target reference => exact kind_of_referenceAdmits h
  | id reference => exact kind_of_referenceAdmits h
  | date format =>
    cases format <;> cases s <;> first | rfl | exact absurd h (by simp [Admits])
  | _ => cases s <;> first | rfl | exact absurd h (by simp [Admits])

end Attribute

/-! ## Tests -/

namespace Test

/-- Whether the attributes that a test makes sense of include this one. -/
def suits : Test → Attribute → Bool
  | .compare _ _, a => a.isOrdered
  | .pattern _ _ _, a => a.isText
  | .sameText _ _, a => a.kind = .string
  | .equal _ _, a => a.kind ≠ .choices
  | .contains _ _, a => a.kind = .choices
  | .isNull _, _ => true
  | .member ss _, a => a.kind ≠ .choices && !ss.isEmpty
  | .containsAny ss _, a => a.kind = .choices && !ss.isEmpty
  | .flags _ _, a => a.kind = .boolean
  | .range _ _, a => a.isOrdered
  | .window _, a => a.isDate
  | .wholeDays _, a => a.isDate

/-- A test of an attribute with values of its kind. -/
structure Fits (t : Test) (a : Attribute) : Prop where
  suits : t.suits a = true
  kinds : ∀ s ∈ t.scalars, s.kind = a.scalarKind

end Test

namespace ConditionInput

variable {i : ConditionInput} {t : Test}

theorem isAllowed_of_allowedIf {b : Bool} (h : Applicability.allowedIf b = .allowed) :
    b = true := by
  cases b
  · cases h
  · rfl

theorem suits_of_test (hallowed : i.operator.applicability i.type = .allowed)
    (h : i.test = .ok (some t)) : t.suits i.type = true := by
  cases asks_of_test h with
  | compare ho _ | pattern ho _ | wholeDays ho _ | window ho _ =>
    rw [ho] at hallowed
    exact isAllowed_of_allowedIf hallowed
  | range ho _ =>
    cases hordered : i.type.isOrdered with
    | true => exact hordered
    | false => simp [ho, Operator.applicability, hordered] at hallowed
  | sameText _ htype _ | contains _ htype _ | flags _ htype _ =>
    simp [Test.suits, htype, Attribute.kind]
  | equal _ _ hchoices _ => simp [Test.suits, hchoices]
  | containsAny _ htype hss =>
    simp [Test.suits, htype, Attribute.kind, Attribute.ne_nil_of_coerceList hss]
  | member _ _ hchoices hss => simp [Test.suits, hchoices, Attribute.ne_nil_of_coerceList hss]
  | isNull _ => rfl

/-- The test of a condition whose operator applies to the attribute. -/
theorem fits_of_test (hallowed : i.operator.applicability i.type = .allowed)
    (h : i.test = .ok (some t)) : t.Fits i.type :=
  ⟨suits_of_test hallowed h, fun s hs => Attribute.kind_of_yields (yields_of_test h s hs)⟩

end ConditionInput
end RecordFilter
