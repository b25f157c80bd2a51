import RecordFilter.Filter.Test
import RecordFilter.Proofs.Results
/-!
# Where tests come from

Which operators ask which tests, of which attributes, and what has been read for it. A test takes
its values from the value of its condition or from the items in it, each in the form of the
attribute; only the end of a day is an instant that no value names.

## Main definitions

* `Attribute.Yields` — where the values of a test come from.
* `ConditionInput.Asks` — the tests that a condition may ask, one case for each form.

## Main statements

* `ConditionInput.asks_of_test` — a condition asks no other test.
* `ConditionInput.yields_of_test` — the values of a test.
-/
namespace RecordFilter

def UpperBound.scalar : UpperBound → Scalar
  | .inclusive s => s
  | .exclusive s => s

/-- The values that a test compares with. -/
def Test.scalars : Test → List Scalar
  | .compare _ s => [s]
  | .equal s _ => [s]
  | .contains s _ => [s]
  | .member ss _ => ss
  | .containsAny ss _ => ss
  | .range low high => [low, high.scalar]
  | _ => []

/-- The value and the items in it. -/
def Json.withItems : Json → List Json
  | .array items => .array items :: items
  | v => [v]

theorem Json.self_mem_withItems (v : Json) : v ∈ v.withItems := by
  cases v <;> simp [withItems]

namespace Attribute

/-- A value in the form of the attribute that is given by itself or as an item, or the instant at
the end of a day. -/
def Yields (a : Attribute) (dates : DateContext) (v : Json) (s : Scalar) : Prop :=
  (∃ w ∈ v.withItems, a.coerce dates w = .ok s) ∨ a = .date .datetime ∧ ∃ t, s = .timestamp t

variable {a : Attribute} {dates : DateContext} {v : Json} {s : Scalar}

theorem yields_of_coerce (h : a.coerce dates v = .ok s) : a.Yields dates v s :=
  Or.inl ⟨v, v.self_mem_withItems, h⟩

theorem exists_mem_of_coerceAll {vs : List Json} {ss : List Scalar}
    (h : a.coerceAll dates vs = .ok ss) : ∀ s ∈ ss, ∃ v ∈ vs, a.coerce dates v = .ok s := by
  induction vs generalizing ss with
  | nil =>
    cases h
    simp
  | cons v rest ih =>
    simp only [coerceAll, Results.bind_eq_ok, Results.pure_eq_ok] at h
    obtain ⟨s, hs, ss', hrest, rfl⟩ := h
    rw [List.forall_mem_cons]
    refine ⟨⟨v, List.mem_cons_self, hs⟩, fun s' hs' => ?_⟩
    obtain ⟨w, hw, hcoerce⟩ := ih hrest s' hs'
    exact ⟨w, List.mem_cons_of_mem _ hw, hcoerce⟩

theorem yields_of_coerceList {ss : List Scalar} (h : a.coerceList dates v = .ok ss) :
    ∀ s ∈ ss, a.Yields dates v s := by
  unfold coerceList at h
  split at h
  · intro s hs
    obtain ⟨w, hw, hcoerce⟩ := exists_mem_of_coerceAll h s hs
    exact Or.inl ⟨w, List.mem_cons_of_mem _ hw, hcoerce⟩
  · cases h

theorem ne_nil_of_coerceList {ss : List Scalar} (h : a.coerceList dates v = .ok ss) :
    ss ≠ [] := by
  unfold coerceList at h
  split at h
  · simp only [coerceAll, Results.bind_eq_ok, Results.pure_eq_ok] at h
    obtain ⟨s, -, rest, -, rfl⟩ := h
    simp
  · cases h

/-- An upper end is given in the form of the attribute, or it is the end of a day. -/
theorem coerceUpper_cases {u : UpperBound} (h : a.coerceUpper dates v = .ok u) :
    a.coerce dates v = .ok u.scalar ∨ a = .date .datetime ∧ ∃ t, u.scalar = .timestamp t := by
  have hplain {a : Attribute} {v : Json} (h : (a.coerce dates v).map .inclusive = .ok u) :
      a.coerce dates v = .ok u.scalar := by
    obtain ⟨s, hs, rfl⟩ := Results.exceptMap_eq_ok.1 h
    exact hs
  unfold coerceUpper at h
  split at h
  · split at h
    · unfold dayEnd at h
      split at h
      · cases h
      · simp only [Results.bind_eq_ok, Results.pure_eq_ok] at h
        obtain ⟨t, -, rfl⟩ := h
        exact Or.inr ⟨rfl, t, rfl⟩
    · exact Or.inl (hplain h)
  · exact Or.inl (hplain h)

theorem yields_of_coerceRange {low : Scalar} {high : UpperBound}
    (h : a.coerceRange dates v = .ok (low, high)) :
    a.Yields dates v low ∧ a.Yields dates v high.scalar := by
  unfold coerceRange at h
  split at h
  · simp only [Results.bind_eq_ok, Results.pure_eq_ok, Prod.mk.injEq] at h
    obtain ⟨s, hs, u, hu, rfl, rfl⟩ := h
    refine ⟨Or.inl ⟨_, by simp [Json.withItems], hs⟩, ?_⟩
    rcases coerceUpper_cases hu with hgiven | hend
    · exact Or.inl ⟨_, by simp [Json.withItems], hgiven⟩
    · exact Or.inr hend
  · cases h

end Attribute

namespace ConditionInput

variable {i : ConditionInput}

/-- The condition asks a test for what has been read of its value. -/
inductive Asks (i : ConditionInput) : Test → Prop
  | compare {c : Comparison} {s : Scalar} (ho : i.operator = .compare c) (hs : i.scalar = .ok s) :
      Asks i (.compare c s)
  | pattern {place : Placement} {negated : Bool} {text : String}
      (ho : i.operator = .pattern place negated) (ht : i.text = .ok text) :
      Asks i (.pattern place.anchor text negated)
  | sameText {negated : Bool} {text : String} (ho : i.operator = .equality negated)
      (htype : i.type = .string) (ht : i.text = .ok text) : Asks i (.sameText text negated)
  | contains {negated : Bool} {options : List ChoiceOption} {s : Scalar}
      (ho : i.operator = .equality negated) (htype : i.type = .choices options)
      (hs : i.scalar = .ok s) : Asks i (.contains s negated)
  | equal {negated : Bool} {s : Scalar} (ho : i.operator = .equality negated)
      (hstring : i.type.kind ≠ .string) (hchoices : i.type.kind ≠ .choices)
      (hs : i.scalar = .ok s) : Asks i (.equal s negated)
  | isNull {negated : Bool} (ho : i.operator = .nullity negated) : Asks i (.isNull negated)
  | flags {negated : Bool} {ss : List Scalar} (ho : i.operator = .membership negated)
      (htype : i.type = .boolean) (hss : i.scalars = .ok ss) :
      Asks i (.flags (Flags.ofScalars ss) negated)
  | containsAny {negated : Bool} {options : List ChoiceOption} {ss : List Scalar}
      (ho : i.operator = .membership negated) (htype : i.type = .choices options)
      (hss : i.scalars = .ok ss) : Asks i (.containsAny ss negated)
  | member {negated : Bool} {ss : List Scalar} (ho : i.operator = .membership negated)
      (hboolean : i.type.kind ≠ .boolean) (hchoices : i.type.kind ≠ .choices)
      (hss : i.scalars = .ok ss) : Asks i (.member ss negated)
  | range {low : Scalar} {high : UpperBound} (ho : i.operator = .between)
      (h : i.range = .ok (low, high)) : Asks i (.range low high)
  | wholeDays {o : DateOperator} {w : Window} (ho : i.operator = .date o)
      (hw : i.dates.window o i.value = .ok w) : Asks i (.wholeDays w)
  | window {o : DateOperator} {w : Window} (ho : i.operator = .date o)
      (hw : i.dates.window o i.value = .ok w) : Asks i (.window w)

variable {t : Test} {negated : Bool}

theorem asks_of_equalityTest (ho : i.operator = .equality negated)
    (h : i.equalityTest negated = .ok t) : i.Asks t := by
  unfold equalityTest at h
  split at h <;> simp only [Results.bind_eq_ok, Results.pure_eq_ok] at h <;>
    obtain ⟨s, hs, rfl⟩ := h
  · next htype => exact .sameText ho htype hs
  · next options htype => exact .contains ho htype hs
  · next hstring hchoices =>
    refine .equal ho (fun hkind => ?_) (fun hkind => ?_) hs
    · cases htype : i.type <;> simp_all [Attribute.kind]
    · cases htype : i.type <;> simp_all [Attribute.kind]

theorem asks_of_membershipTest (ho : i.operator = .membership negated)
    (h : i.membershipTest negated = .ok t) : i.Asks t := by
  unfold membershipTest at h
  split at h <;> simp only [Results.bind_eq_ok, Results.pure_eq_ok] at h <;>
    obtain ⟨ss, hss, rfl⟩ := h
  · next htype => exact .flags ho htype hss
  · next options htype => exact .containsAny ho htype hss
  · next hboolean hchoices =>
    refine .member ho (fun hkind => ?_) (fun hkind => ?_) hss
    · cases htype : i.type <;> simp_all [Attribute.kind]
    · cases htype : i.type <;> simp_all [Attribute.kind]

theorem asks_of_dateTest {o : DateOperator} (ho : i.operator = .date o)
    (h : i.dateTest o = .ok t) : i.Asks t := by
  unfold dateTest at h
  split at h <;> simp only [Results.bind_eq_ok, Results.pure_eq_ok] at h <;>
    obtain ⟨w, hw, rfl⟩ := h
  · exact .wholeDays ho hw
  · exact .wholeDays ho hw
  · exact .window ho hw

/-- The test of a condition is one that it asks. -/
theorem asks_of_test (h : i.test = .ok (some t)) : i.Asks t := by
  unfold test at h
  cases ho : i.operator with
  | compare c =>
    simp only [ho, Results.bind_eq_ok, Results.pure_eq_ok, Option.some.injEq] at h
    obtain ⟨s, hs, rfl⟩ := h
    exact .compare ho hs
  | pattern place negated =>
    simp only [ho, Results.bind_eq_ok, Results.pure_eq_ok, Option.some.injEq] at h
    obtain ⟨text, ht, rfl⟩ := h
    exact .pattern ho ht
  | equality negated =>
    simp only [ho, Results.map_eq_ok, Option.some.injEq] at h
    obtain ⟨_, h, rfl⟩ := h
    exact asks_of_equalityTest ho h
  | nullity negated =>
    simp only [ho, Except.ok.injEq, Option.some.injEq] at h
    exact h ▸ .isNull ho
  | membership negated =>
    simp only [ho, Results.map_eq_ok, Option.some.injEq] at h
    obtain ⟨_, h, rfl⟩ := h
    exact asks_of_membershipTest ho h
  | between =>
    simp only [ho, Results.bind_eq_ok, Results.pure_eq_ok, Option.some.injEq] at h
    obtain ⟨⟨low, high⟩, h, rfl⟩ := h
    exact .range ho h
  | date o =>
    simp only [ho, Results.map_eq_ok, Option.some.injEq] at h
    obtain ⟨_, h, rfl⟩ := h
    exact asks_of_dateTest ho h
  | unknown key => simp [ho] at h

/-- A test takes its values from the value of its condition. -/
theorem yields_of_test (h : i.test = .ok (some t)) :
    ∀ s ∈ t.scalars, i.type.Yields i.dates i.value s := by
  cases asks_of_test h with
  | compare _ hs | contains _ _ hs | equal _ _ _ hs =>
    simpa [Test.scalars] using Attribute.yields_of_coerce hs
  | containsAny _ _ hss | member _ _ _ hss => exact Attribute.yields_of_coerceList hss
  | range _ hrange => simpa [Test.scalars] using Attribute.yields_of_coerceRange hrange
  | _ => simp [Test.scalars]

end ConditionInput
end RecordFilter
