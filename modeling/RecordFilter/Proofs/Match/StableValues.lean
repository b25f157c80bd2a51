import RecordFilter.Match.Basic
import RecordFilter.Proofs.Filter.ScalarKinds
/-!
# Values that are read again

What is read of a reference is the id inside, however many objects are put around it. And what an
attribute has read, it reads again from the operand that a document predicate has for it: the form
in which values are stored is a fixed point. Only object ids have several spellings, one for each
choice of letter case; they are stored in lower case.

Dates are left out. They are stored as instants or days and read from texts, not from the objects
that are written for them.

## Main definitions

* `Json.IsIdOf` — the id inside a reference.
* `Scalar.IsCanonical` — object ids in lower case.

## Main statements

* `Scalar.ofReference_of_isIdOf` — references with the same id.
* `Attribute.exists_coerce_iff` — the values that an attribute can have read.
* `Attribute.coerce_toOperand` — operands read again.
* `Attribute.coercion_stable` — both, for every attribute.
-/
namespace RecordFilter

/-! ## Letter case -/

namespace Text

/-- Only the capital letters of ASCII are moved. -/
theorem toNat_toLower (c : Char) :
    c.toLower.toNat = if 65 ≤ c.toNat ∧ c.toNat ≤ 90 then c.toNat + 32 else c.toNat := by
  have hcapital : c.val ≥ 'A'.val ∧ c.val ≤ 'Z'.val ↔ 65 ≤ c.toNat ∧ c.toNat ≤ 90 := by
    simp only [ge_iff_le, UInt32.le_iff_toNat_le]
    rfl
  unfold Char.toLower
  split
  · next h =>
    have hlast : c.toNat ≤ 90 := (hcapital.1 h).2
    rw [if_pos (hcapital.1 h)]
    calc
      (c.val + ('a'.val - 'A'.val)).toNat = (c.toNat + 32) % 4294967296 := UInt32.toNat_add _ _
      _ = c.toNat + 32 := Nat.mod_eq_of_lt (by omega)
  · next h => rw [if_neg (mt hcapital.2 h)]

theorem toList_lowerAscii (s : String) : (lowerAscii s).toList = s.toList.map Char.toLower := by
  simp [lowerAscii]

@[simp] theorem lowerAscii_lowerAscii (s : String) : lowerAscii (lowerAscii s) = lowerAscii s := by
  have htwice (c : Char) : c.toLower.toLower = c.toLower := by
    have hmoved := toNat_toLower c
    rw [← Char.toNat_inj, toNat_toLower c.toLower]
    split at hmoved <;> exact if_neg (by omega)
  rw [lowerAscii, toList_lowerAscii, List.map_map, lowerAscii]
  exact congrArg String.ofList (List.map_congr_left fun c _ => htwice c)

end Text

/-! ## References -/

/-- The names under which an object keeps an id. -/
def Scalar.idNames : List String := ["id", "_id", "$oid"]

namespace Json

/-- The value can be an id by itself. -/
def isBare : Json → Bool
  | .bool _ => true
  | .number _ => true
  | .string _ => true
  | _ => false

/-- The second value is the first one, which can be an id, or keeps it in objects around it that
have no other member. -/
inductive IsIdOf (v : Json) : Json → Prop
  | bare (h : v.isBare = true) : IsIdOf v v
  | member {name : String} {w : Json} (hname : name ∈ Scalar.idNames) (h : IsIdOf v w) :
      IsIdOf v (.object [(name, w)])

theorem IsIdOf.self {v w : Json} (h : v.IsIdOf w) : v.IsIdOf v := by
  induction h with
  | bare h => exact .bare h
  | member _ _ ih => exact ih

end Json

namespace Scalar

variable {kind : ReferenceKind} {v w : Json} {s : Scalar} {hex spelling : String}

/-- An object around an id changes nothing, whichever of the names it has. -/
theorem unwrap?_member {name : String} (hname : name ∈ idNames) :
    unwrap? (.object [(name, v)]) = unwrap? v := by
  simp only [idNames, List.mem_cons, List.not_mem_nil, or_false] at hname
  rcases hname with rfl | rfl | rfl <;>
    cases hv : unwrap? v <;> simp [unwrap?, unwrapMember?, hv]

theorem unwrap?_of_isIdOf (h : v.IsIdOf w) : unwrap? w = some v := by
  induction h with
  | bare h =>
    cases v with
    | bool _ | number _ | string _ => rfl
    | null | array _ | object _ => cases h
  | member hname _ ih => rw [unwrap?_member hname, ih]

/-- References with the same id are stored alike, or refused for the same reason. -/
theorem ofReference_of_isIdOf (h : v.IsIdOf w) : ofReference kind w = ofReference kind v := by
  simp only [ofReference, unwrap?_of_isIdOf h, unwrap?_of_isIdOf h.self]

/-! ## Object ids -/

theorem isHexDigit_iff {c : Char} : isHexDigit c = true ↔
    48 ≤ c.toNat ∧ c.toNat ≤ 57 ∨ 97 ≤ c.toNat ∧ c.toNat ≤ 102 ∨ 65 ≤ c.toNat ∧ c.toNat ≤ 70 := by
  simp only [isHexDigit, Char.isDigit, Bool.or_eq_true, Bool.and_eq_true, decide_eq_true_eq,
    Char.le_def, ge_iff_le, UInt32.le_iff_toNat_le, or_assoc]
  rfl

@[simp] theorem isHexDigit_toLower (c : Char) : isHexDigit c.toLower = isHexDigit c := by
  rw [Bool.eq_iff_iff, isHexDigit_iff, isHexDigit_iff, Text.toNat_toLower]
  split <;> omega

/-- Letter case does not decide what is an object id. -/
@[simp] theorem isObjectId_lowerAscii (s : String) :
    isObjectId (Text.lowerAscii s) = isObjectId s := by
  have hlength : (Text.lowerAscii s).length = s.length := by
    rw [← String.length_toList, Text.toList_lowerAscii, List.length_map, String.length_toList]
  have hdigits : (s.toList.map Char.toLower).all isHexDigit = s.toList.all isHexDigit := by
    simp [List.all_map, Function.comp_def]
  rw [isObjectId, hlength, Text.toList_lowerAscii, hdigits, isObjectId]

theorem ofReference_objectId_eq_ok : ofReference .objectId v = .ok s ↔
    ∃ spelling, unwrap? v = some (.string spelling) ∧ isObjectId spelling = true ∧
      s = .objectId (Text.lowerAscii spelling) := by
  constructor
  · intro h
    cases hv : unwrap? v with
    | none => simp [ofReference, hv] at h
    | some inner =>
      cases inner with
      | string spelling =>
        cases hid : isObjectId spelling with
        | false => simp [ofReference, hv, Json.toString?, Option.filter_some, hid] at h
        | true =>
          simp only [ofReference, hv, Json.toString?, Option.filter_some, hid, if_true,
            Except.ok.injEq] at h
          exact ⟨spelling, rfl, hid, h.symm⟩
      | _ => simp [ofReference, hv, Json.toString?] at h
  · rintro ⟨spelling, hv, hid, rfl⟩
    simp only [ofReference, hv, Json.toString?, Option.filter_some, hid, if_true]

/-- The value is one that can be stored: an object id is in lower case. -/
def IsCanonical : Scalar → Prop
  | .objectId hex => isObjectId hex = true ∧ Text.lowerAscii hex = hex
  | _ => True

theorem isCanonical_of_kind (h : s.kind ≠ .objectId) : s.IsCanonical := by
  cases s with
  | objectId hex => exact absurd rfl h
  | _ => trivial

theorem isCanonical_of_ofReference (h : ofReference .objectId v = .ok s) : s.IsCanonical := by
  obtain ⟨spelling, -, hid, rfl⟩ := ofReference_objectId_eq_ok.1 h
  exact ⟨(isObjectId_lowerAscii spelling).trans hid, Text.lowerAscii_lowerAscii spelling⟩

/-- An object id is stored for each of its spellings, and for no other text. -/
theorem IsCanonical.ofReference_string_iff (h : (objectId hex).IsCanonical) :
    ofReference .objectId (.string spelling) = .ok (.objectId hex) ↔
      Text.lowerAscii spelling = hex := by
  obtain ⟨hid, -⟩ := h
  rw [ofReference_objectId_eq_ok]
  constructor
  · rintro ⟨_, hunwrap, -, hhex⟩
    cases hunwrap
    exact (Scalar.objectId.inj hhex).symm
  · rintro rfl
    exact ⟨spelling, rfl, (isObjectId_lowerAscii spelling).symm.trans hid, rfl⟩

/-! ## Operands -/

theorem ofText_toOperand (h : s.kind = .text) : ofText s.toOperand = .ok s := by
  cases s with
  | text s => rfl
  | _ => cases h

theorem ofNumber_toOperand (h : s.kind = .number) : ofNumber s.toOperand = .ok s := by
  cases s with
  | number n => rfl
  | _ => cases h

theorem ofBoolean_toOperand (h : s.kind = .bool) : ofBoolean s.toOperand = .ok s := by
  cases s with
  | bool b => rfl
  | _ => cases h

/-- Ids are read from their operands, of which those of object ids are wrapped. -/
theorem ofReference_toOperand (h : s.kind = kind.scalarKind) (hs : s.IsCanonical) :
    ofReference kind s.toOperand = .ok s := by
  cases s with
  | text s =>
    cases kind with
    | string => rfl
    | objectId | number => cases h
  | number n =>
    cases kind with
    | number => rfl
    | objectId | string => cases h
  | objectId hex =>
    cases kind with
    | objectId =>
      have hwrapped : (Json.string hex).IsIdOf (Scalar.objectId hex).toOperand :=
        .member (by simp [idNames]) (.bare rfl)
      exact (ofReference_of_isIdOf hwrapped).trans (hs.ofReference_string_iff.2 hs.2)
    | string | number => cases h
  | bool _ | timestamp _ | date _ => cases kind <;> cases h

end Scalar

/-! ## Attributes -/

namespace Attribute

variable {a : Attribute} {dates : DateContext} {v : Json} {s : Scalar}

def isReference : Attribute → Bool
  | .lookup _ _ => true
  | .id _ => true
  | _ => false

theorem coerce_of_isIdOf {w : Json} (ha : a.isReference = true) (h : v.IsIdOf w) :
    a.coerce dates w = a.coerce dates v := by
  cases a with
  | lookup target kind | id kind => exact Scalar.ofReference_of_isIdOf h
  | _ => cases ha

/-- Only references are stored as object ids. -/
theorem coerce_eq_ofReference (ha : a.scalarKind = .objectId) (dates : DateContext) (v : Json) :
    a.coerce dates v = Scalar.ofReference .objectId v := by
  cases a with
  | lookup target kind | id kind =>
    cases kind with
    | objectId => rfl
    | string | number => cases ha
  | choice options | choices options =>
    cases hd : discriminantOf options <;> simp [scalarKind, hd, Discriminant.scalarKind] at ha
  | date format => cases format <;> cases ha
  | string | number | money | boolean => cases ha

theorem isCanonical_of_coerce (h : a.coerce dates v = .ok s) : s.IsCanonical := by
  by_cases ha : a.scalarKind = .objectId
  · rw [coerce_eq_ofReference ha] at h
    exact Scalar.isCanonical_of_ofReference h
  · exact Scalar.isCanonical_of_kind (kind_of_coerce h ▸ ha)

theorem ofDiscriminant_toOperand {d : Discriminant} (h : s.kind = d.scalarKind) :
    coerce.ofDiscriminant d s.toOperand = .ok s := by
  cases d with
  | string => exact Scalar.ofText_toOperand h
  | number => exact Scalar.ofNumber_toOperand h

/-- A value of the kind of the attribute is read again from its operand. -/
theorem coerce_toOperand (hdate : a.isDate = false) (h : s.kind = a.scalarKind)
    (hs : s.IsCanonical) : a.coerce dates s.toOperand = .ok s := by
  cases a with
  | string => exact Scalar.ofText_toOperand h
  | number | money => exact Scalar.ofNumber_toOperand h
  | boolean => exact Scalar.ofBoolean_toOperand h
  | date format => cases hdate
  | choice options | choices options => exact ofDiscriminant_toOperand h
  | lookup target kind | id kind => exact Scalar.ofReference_toOperand h hs

/-- What an attribute can have read are the values of its kind, object ids in lower case. -/
theorem exists_coerce_iff (hdate : a.isDate = false) :
    (∃ v, a.coerce dates v = .ok s) ↔ s.kind = a.scalarKind ∧ s.IsCanonical := by
  constructor
  · rintro ⟨v, h⟩
    exact ⟨kind_of_coerce h, isCanonical_of_coerce h⟩
  · rintro ⟨hkind, hs⟩
    exact ⟨s.toOperand, coerce_toOperand hdate hkind hs⟩

/-- A reference is stored, or refused, as the id inside it is. What an attribute without a date has
read is read again from its operand, and an object id from each of its spellings. -/
theorem coercion_stable (a : Attribute) (dates : DateContext) :
    (a.isReference = true → ∀ v w, v.IsIdOf w → a.coerce dates w = a.coerce dates v) ∧
      (a.isDate = false → ∀ v s, a.coerce dates v = .ok s → a.coerce dates s.toOperand = .ok s) ∧
      ∀ v hex, a.coerce dates v = .ok (.objectId hex) → ∀ spelling,
        a.coerce dates (.string spelling) = .ok (.objectId hex) ↔
          Text.lowerAscii spelling = hex := by
  refine ⟨?_, ?_, ?_⟩
  · intro ha v w h
    exact coerce_of_isIdOf ha h
  · intro hdate v s h
    obtain ⟨hkind, hs⟩ := (exists_coerce_iff hdate).1 ⟨v, h⟩
    exact coerce_toOperand hdate hkind hs
  · intro v hex h spelling
    have hhex : (Scalar.objectId hex).IsCanonical := isCanonical_of_coerce h
    rw [coerce_eq_ofReference (kind_of_coerce h).symm]
    exact hhex.ofReference_string_iff

end Attribute

/-- A lookup of projects. -/
def Attribute.project : Attribute := .lookup "projects" .objectId

/-- The id of a project in capital letters. -/
def Json.projectId : Json := .string "65A1B2C3D4E5F60718293A4B"

/-- The id inside two objects. -/
def Json.projectReference : Json := .object [("_id", .object [("$oid", .projectId)])]

/-- The start of 1970 in UTC. -/
def DateContext.epoch : DateContext := ⟨⟨0, 0⟩, .utc, .default⟩

/-- A project is stored under its id, whether it is given in capital letters, wrapped, as the
operand of a document or in mixed letter case. -/
theorem Attribute.project_stable :
    project.isReference = true ∧ project.isDate = false ∧
      Json.projectId.IsIdOf .projectReference ∧
      project.coerce .epoch .projectId = .ok (.objectId "65a1b2c3d4e5f60718293a4b") ∧
      project.coerce .epoch .projectReference = .ok (.objectId "65a1b2c3d4e5f60718293a4b") ∧
      project.coerce .epoch (.object [("$oid", .string "65a1b2c3d4e5f60718293a4b")]) =
        .ok (.objectId "65a1b2c3d4e5f60718293a4b") ∧
      project.coerce .epoch (.string "65a1B2c3D4e5F60718293a4b") =
        .ok (.objectId "65a1b2c3d4e5f60718293a4b") := by
  have hwrapped : Json.projectId.IsIdOf .projectReference :=
    .member (by decide) (.member (by decide) (.bare rfl))
  have hread : project.coerce .epoch .projectId = .ok (.objectId "65a1b2c3d4e5f60718293a4b") := rfl
  obtain ⟨hwrap, hagain, hspelling⟩ := coercion_stable project .epoch
  exact ⟨rfl, rfl, hwrapped, hread, (hwrap rfl _ _ hwrapped).trans hread, hagain rfl _ _ hread,
    (hspelling _ _ hread _).2 (by decide +kernel)⟩

end RecordFilter
