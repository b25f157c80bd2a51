import RecordFilter.Proofs.Filter.ScalarKinds
import RecordFilter.Proofs.Sql.Subclauses
/-!
# Clauses by the types of columns

A column has one type for all its values, and the clause of a test compares it with values of that
type only. Patterns are for texts. A column of arrays is never compared itself; it is asked whether
it contains a value of the type of its elements.

## Main definitions

* `Attribute.storageType` — the type of the column of an attribute, or of its elements.
* `Clause.FitsColumn` — what a column of an attribute may be asked.

## Main statements

* `Clause.fitsColumn_ofTest` — the clauses of a test.
-/
namespace RecordFilter

inductive StorageType where
  | text | number | boolean | timestamp | date
  deriving DecidableEq, Repr

/-- Object ids are stored as texts. -/
def ScalarKind.storageType : ScalarKind → StorageType
  | .text => .text
  | .number => .number
  | .bool => .boolean
  | .timestamp => .timestamp
  | .date => .date
  | .objectId => .text

def Attribute.storageType (a : Attribute) : StorageType := a.scalarKind.storageType

inductive SqlValue.HasType : SqlValue → StorageType → Prop
  | text (s : String) : HasType (.text s) .text
  | int {z : Int} (h : fitsInt64 z = true) : HasType (.int z) .number
  | float (x : Binary64) : HasType (.float x) .number
  | bool (b : Bool) : HasType (.bool b) .boolean
  | timestamp (t : Instant) : HasType (.timestamp t) .timestamp
  | date (d : Date) : HasType (.date d) .date

namespace Clause

/-- What the column of an attribute may be asked, apart from connectives. -/
def FitsColumn (column : Column) (a : Attribute) : Clause → Prop
  | .compare c _ v => c = column ∧ a.kind ≠ .choices ∧ v.HasType a.storageType
  | .like c _ _ _ => c = column ∧ a.isText = true
  | .member c vs _ => c = column ∧ a.kind ≠ .choices ∧ ∀ v ∈ vs, v.HasType a.storageType
  | .between c low high =>
    c = column ∧ a.kind ≠ .choices ∧ low.HasType a.storageType ∧ high.HasType a.storageType
  | .isNull c _ => c = column
  | .contains c v => c = column ∧ a.kind = .choices ∧ v.HasType a.storageType
  | .and _ | .or _ | .not _ => True

/-! ## Values -/

theorem hasType_value (s : Scalar) : (value s).HasType s.kind.storageType := by
  cases s with
  | text s => exact .text s
  | objectId hex => exact .text hex
  | bool b => exact .bool b
  | timestamp t => exact .timestamp t
  | date d => exact .date d
  | number n =>
    cases n with
    | float x => exact .float x
    | int z =>
      simp only [value, Number.toInt64?]
      cases hz : fitsInt64 z with
      | true => exact .int hz
      | false => exact .float _

variable {column : Column} {a : Attribute} {v : SqlValue} {c : Clause} {t : Test}

theorem hasType_of_kind {s : Scalar} (h : s.kind = a.scalarKind) :
    (value s).HasType a.storageType := by
  rw [Attribute.storageType, ← h]
  exact hasType_value s

theorem hasType_of_isTime (ha : a.isDate = true) (h : v.IsTime a.isDateOnly) :
    v.HasType a.storageType := by
  cases a with
  | date format =>
    cases format with
    | date =>
      have hdate : v.IsTime true := h
      cases hdate with
      | date d => exact .date d
    | datetime =>
      have htime : v.IsTime false := h
      cases htime with
      | timestamp t => exact .timestamp t
  | _ => simp [Attribute.isDate, Attribute.kind] at ha

theorem ne_choices_of_isDate (ha : a.isDate = true) : a.kind ≠ .choices := by
  simp only [Attribute.isDate, decide_eq_true_eq] at ha
  simp [ha]

theorem ne_choices_of_isOrdered (ha : a.isOrdered = true) : a.kind ≠ .choices := by
  cases a <;> simp_all [Attribute.isOrdered, Attribute.isNumeric, Attribute.isDate, Attribute.kind]

/-! ## Tests -/

theorem fitsColumn_orNull (h : c.Each (FitsColumn column a)) :
    (orNull column c).Each (FitsColumn column a) :=
  each_orNull.2 ⟨trivial, rfl, h⟩

theorem fitsColumn_compare (op : Comparator) (ha : a.kind ≠ .choices)
    (hv : v.HasType a.storageType) :
    (Clause.compare column op v).Each (FitsColumn column a) :=
  (each_leaf rfl).2 ⟨rfl, ha, hv⟩

theorem fitsColumn_like (anyCase : Bool) (pattern : String) (negated : Bool)
    (ha : a.isText = true) :
    (Clause.like column anyCase pattern negated).Each (FitsColumn column a) :=
  (each_leaf rfl).2 ⟨rfl, ha⟩

theorem fitsColumn_member {vs : List SqlValue} (negated : Bool) (ha : a.kind ≠ .choices)
    (hvs : ∀ v ∈ vs, v.HasType a.storageType) :
    (Clause.member column vs negated).Each (FitsColumn column a) :=
  (each_leaf rfl).2 ⟨rfl, ha, hvs⟩

theorem fitsColumn_contains (ha : a.kind = .choices) (hv : v.HasType a.storageType) :
    (Clause.contains column v).Each (FitsColumn column a) :=
  (each_leaf rfl).2 ⟨rfl, ha, hv⟩

theorem fitsColumn_containsAny {vs : List SqlValue} (ha : a.kind = .choices)
    (hvs : ∀ v ∈ vs, v.HasType a.storageType) :
    (containsAny column vs).Each (FitsColumn column a) := by
  have hparts : ∀ part ∈ vs.map (Clause.contains column), part.Each (FitsColumn column a) := by
    intro part hpart
    obtain ⟨v, hv, rfl⟩ := List.mem_map.1 hpart
    exact fitsColumn_contains ha (hvs v hv)
  unfold containsAny
  split
  · next part hpart => exact hparts part (by simp [hpart])
  · exact each_or.2 ⟨trivial, hparts⟩

theorem fitsColumn_flags (f : Flags) (negated : Bool) (ha : a.kind = .boolean) :
    (flags column f negated).Each (FitsColumn column a) := by
  have htype : a.storageType = .boolean := by
    cases a <;> first | rfl | cases ha
  have hset : (Clause.member column (flagValues f) negated).Each (FitsColumn column a) := by
    refine fitsColumn_member negated (by simp [ha]) fun v hv => ?_
    obtain ⟨b, rfl⟩ : ∃ b, v = .bool b := by
      simp only [flagValues, List.mem_append] at hv
      rcases hv with hv | hv <;> split at hv <;> simp at hv <;> exact ⟨_, hv⟩
    exact htype ▸ .bool b
  unfold flags
  dsimp only
  split
  · exact fitsColumn_orNull hset
  · exact hset
  · refine each_and.2 ⟨trivial, ?_⟩
    simpa using ⟨hset, (each_leaf rfl).2 rfl⟩
  · exact fitsColumn_orNull hset

theorem fitsColumn_range {low : Scalar} {high : UpperBound} (ha : a.kind ≠ .choices)
    (hlow : low.kind = a.scalarKind) (hhigh : high.scalar.kind = a.scalarKind) :
    (range column low high).Each (FitsColumn column a) := by
  cases high with
  | inclusive high =>
    exact (each_leaf rfl).2 ⟨rfl, ha, hasType_of_kind hlow, hasType_of_kind hhigh⟩
  | exclusive high =>
    refine each_and.2 ⟨trivial, ?_⟩
    simpa using ⟨fitsColumn_compare .gte ha (hasType_of_kind hlow),
      fitsColumn_compare .lt ha (hasType_of_kind hhigh)⟩

theorem fitsColumn_window {w : Window} (ha : a.isDate = true)
    (h : window column a.isDateOnly w = .ok c) : c.Each (FitsColumn column a) := by
  have hone {op : Comparator} {v : SqlValue} (hv : v.IsTime a.isDateOnly) :
      (Clause.compare column op v).Each (FitsColumn column a) :=
    fitsColumn_compare op (ne_choices_of_isDate ha) (hasType_of_isTime ha hv)
  rcases window_cases h with ⟨low, high, hlow, hhigh, rfl⟩ | ⟨op, v, hv, rfl⟩
  · refine each_and.2 ⟨trivial, ?_⟩
    simpa using ⟨hone hlow, hone hhigh⟩
  · exact hone hv

theorem fitsColumn_wholeDays {w : Window} (ha : a.isDate = true)
    (h : wholeDays column a.isDateOnly w = .ok c) : c.Each (FitsColumn column a) := by
  have hkind := ne_choices_of_isDate ha
  rcases wholeDays_cases h with ⟨low, high, hlow, hhigh, rfl⟩ | ⟨op, v, hv, rfl⟩
  · exact (each_leaf rfl).2 ⟨rfl, hkind, hasType_of_isTime ha hlow, hasType_of_isTime ha hhigh⟩
  · exact fitsColumn_compare op hkind (hasType_of_isTime ha hv)

/-- The clause of a test that fits an attribute asks its column what such a column may be asked. -/
theorem fitsColumn_ofTest {anyCase : Bool} (hfits : t.Fits a)
    (h : ofTest anyCase a.isDateOnly column t = .ok c) : c.Each (FitsColumn column a) := by
  have hsuits := hfits.suits
  have htype {s : Scalar} (hs : s ∈ t.scalars) : (value s).HasType a.storageType :=
    hasType_of_kind (hfits.kinds s hs)
  cases t with
  | compare op s =>
    cases h
    exact fitsColumn_compare _ (ne_choices_of_isOrdered hsuits) (htype (by simp [Test.scalars]))
  | pattern anchor text negated =>
    cases h
    exact fitsColumn_like _ _ _ hsuits
  | sameText text negated =>
    have hstring : a.kind = .string := by simpa [Test.suits] using hsuits
    have htext : a.isText = true := by
      cases a <;> first | rfl | cases hstring
    cases negated <;> cases h
    · exact fitsColumn_like _ _ _ htext
    · exact fitsColumn_orNull (fitsColumn_like _ _ _ htext)
  | equal s negated =>
    have hkind : a.kind ≠ .choices := by simpa [Test.suits] using hsuits
    have hs := htype (s := s) (by simp [Test.scalars])
    cases negated <;> cases h
    · exact fitsColumn_compare _ hkind hs
    · exact fitsColumn_orNull (fitsColumn_compare _ hkind hs)
  | contains s negated =>
    have hkind : a.kind = .choices := by simpa [Test.suits] using hsuits
    have hset : (Clause.contains column (value s)).Each (FitsColumn column a) :=
      fitsColumn_contains hkind (htype (by simp [Test.scalars]))
    cases negated <;> cases h
    · exact hset
    · exact fitsColumn_orNull (each_not.2 ⟨trivial, hset⟩)
  | isNull negated =>
    cases h
    exact (each_leaf rfl).2 rfl
  | member ss negated =>
    have hkind : a.kind ≠ .choices ∧ ss ≠ [] := by simpa [Test.suits] using hsuits
    have hset (negated : Bool) : (Clause.member column (ss.map value) negated).Each
        (FitsColumn column a) :=
      fitsColumn_member negated hkind.1 (List.forall_mem_map.2 fun s hs => htype hs)
    cases negated <;> cases h
    · exact hset false
    · exact fitsColumn_orNull (hset true)
  | containsAny ss negated =>
    have hkind : a.kind = .choices ∧ ss ≠ [] := by simpa [Test.suits] using hsuits
    have hset : (containsAny column (ss.map value)).Each (FitsColumn column a) :=
      fitsColumn_containsAny hkind.1 (List.forall_mem_map.2 fun s hs => htype hs)
    cases negated <;> cases h
    · exact hset
    · exact fitsColumn_orNull (each_not.2 ⟨trivial, hset⟩)
  | flags f negated =>
    cases h
    exact fitsColumn_flags f negated (by simpa [Test.suits] using hsuits)
  | range low high =>
    cases h
    exact fitsColumn_range (ne_choices_of_isOrdered hsuits)
      (hfits.kinds low (by simp [Test.scalars])) (hfits.kinds high.scalar (by simp [Test.scalars]))
  | window w => exact fitsColumn_window hsuits h
  | wholeDays w => exact fitsColumn_wholeDays hsuits h

end Clause
end RecordFilter
