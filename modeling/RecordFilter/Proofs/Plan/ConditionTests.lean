import RecordFilter.Proofs.Filter.TestMeaning
import RecordFilter.Proofs.Filter.TestValues
import RecordFilter.Proofs.Filter.WholeMillis
import RecordFilter.Plan.Basic
/-!
# The tests of conditions

What a condition asks does not depend on the database: every target is given the same test of the
same attribute, and drops the same conditions. A target only contributes its predicate.

## Main definitions

* `Condition.attribute?` — the attribute that a condition is about.
* `Condition.test?` — the test that a condition asks, if it asks one.

## Main statements

* `ConditionInput.window?_eq_none_or_dateTest` — tests with a window come from date operators.
* `Compiler.outcome_cases` — what becomes of a condition that is not refused.
-/
namespace RecordFilter

namespace ConditionInput

variable {i : ConditionInput} {t : Test}

/-- Only a date operator asks a test with a window. -/
theorem window?_eq_none_or_dateTest (h : i.test = .ok (some t)) :
    t.window? = none ∨ ∃ o, i.operator = .date o ∧ i.dateTest o = .ok t := by
  cases asks_of_test h with
  | wholeDays ho _ | window ho _ =>
    simp only [test, ho, Results.map_eq_ok, Option.some.injEq] at h
    obtain ⟨_, hdate, rfl⟩ := h
    exact Or.inr ⟨_, ho, hdate⟩
  | _ => exact Or.inl rfl

/-- The test of a date operator asks for its window. -/
theorem window_of_dateTest {o : DateOperator} (h : i.dateTest o = .ok t) :
    ∃ w, i.dates.window o i.value = .ok w ∧ t.window? = some w := by
  unfold dateTest at h
  split at h <;> simp only [Results.bind_eq_ok, Results.pure_eq_ok] at h <;>
    obtain ⟨w, hw, rfl⟩ := h <;> exact ⟨w, hw, rfl⟩

/-- The bounds of the window of a test are whole milliseconds if the present is one. -/
theorem isWhole_of_test (hnow : i.dates.now.IsWhole) (h : i.test = .ok (some t)) :
    ∀ b ∈ t.bounds, b.IsWhole := by
  rcases window?_eq_none_or_dateTest h with hnone | ⟨o, -, hdate⟩
  · simp [Test.bounds, hnone]
  · obtain ⟨w, hw, ht⟩ := window_of_dateTest hdate
    rw [Test.bounds, ht]
    exact DateContext.isWhole_of_window hnow hw

end ConditionInput

namespace Condition

/-- The attribute that a condition on the records of a schema is about. -/
def attribute? (store : Store) (schema : Schema) (c : Condition) : Option Attribute :=
  match c.extendedKey with
  | none => schema.attribute? c.field
  | some key =>
    match schema.attribute? c.field with
    | some (.lookup target _) => (store.get? target).bind fun related => related.attribute? key
    | _ => none

/-- The condition on an attribute, with its operator and the circumstances that apply there. -/
def input (dates : DateContext) (type : Attribute) (c : Condition) : ConditionInput where
  field := ⟨none, c.field⟩
  type := type
  operator := c.operator.resolve c.value
  value := c.value
  dates := (type.dateFormat?.map dates.forFormat).getD dates

/-- The test that a condition asks of an attribute, unless it is refused or dropped. -/
def test? (dates : DateContext) (type : Attribute) (c : Condition) : Option Test :=
  match (c.operator.resolve c.value).applicability type, (c.input dates type).test with
  | .allowed, .ok t => t
  | _, _ => none

variable {dates : DateContext} {type : Attribute} {c : Condition} {t : Test}

/-- A condition asks a test if its operator applies to the attribute and its value can be read. -/
theorem test?_eq_some_iff : c.test? dates type = some t ↔
    (c.operator.resolve c.value).applicability type = .allowed ∧
      (c.input dates type).test = .ok (some t) := by
  unfold test?
  constructor
  · intro h
    split at h
    · next hallowed htest => exact ⟨hallowed, h ▸ htest⟩
    · cases h
  · rintro ⟨hallowed, htest⟩
    rw [hallowed, htest]

theorem fits_of_test? (h : c.test? dates type = some t) : t.Fits type := by
  obtain ⟨hallowed, htest⟩ := test?_eq_some_iff.1 h
  exact ConditionInput.fits_of_test (i := c.input dates type) hallowed htest

theorem now_input (dates : DateContext) (type : Attribute) (c : Condition) :
    (c.input dates type).dates.now = dates.now := by
  cases type with
  | date format => cases format <;> rfl
  | _ => rfl

/-- On a field of dates a condition is understood in UTC. -/
theorem zone_input_of_isDateOnly {a : Attribute} (h : a.isDateOnly = true) (dates : DateContext)
    (c : Condition) : (c.input dates a).dates.zone = .utc := by
  cases a with
  | date format => cases format <;> first | rfl | cases h
  | _ => cases h

/-- On a field of dates a condition is understood in UTC, elsewhere by the clocks of the zone. -/
theorem zone_input {a : Attribute} (hz : dates.zone.IsOrdered) (hnear : dates.zone.IsNear) :
    (c.input dates a).dates.zone.IsOrdered ∧ (c.input dates a).dates.zone.IsNear ∧
      (a.isDateOnly = true → (c.input dates a).dates.zone = .utc) := by
  refine ⟨?_, ?_, fun h => zone_input_of_isDateOnly h dates c⟩ <;>
    cases a with
    | date format => cases format <;> first | assumption | rfl | exact Zone.isNear_utc
    | _ => assumption

theorem isWhole_of_test? (hnow : dates.now.IsWhole) (h : c.test? dates type = some t) :
    ∀ b ∈ t.bounds, b.IsWhole :=
  ConditionInput.isWhole_of_test (by rwa [now_input]) (test?_eq_some_iff.1 h).2

theorem hasMembers_of_test? (h : c.test? dates type = some t) : t.HasMembers :=
  ConditionInput.hasMembers_of_test (test?_eq_some_iff.1 h).2

/-- The dates that a condition names lie in the calendar. -/
theorem inCalendar_of_test? (h : c.test? dates type = some t) :
    ∀ d, .date d ∈ t.scalars → d.inCalendar = true :=
  fun _ => ConditionInput.inCalendar_of_test
    (fun hdates => zone_input_of_isDateOnly hdates dates c ▸ Zone.isNear_utc)
    (test?_eq_some_iff.1 h).2

end Condition

namespace Compiler

variable {P : Type} {c : Compiler P} {dates : DateContext} {schema : Schema} {found : Located}
  {condition : Condition} {type : Attribute} {o : Outcome P}

/-- The target is given the test of the condition. -/
theorem transform_input :
    c.target.transform ⟨found.field, type, condition.operator.resolve condition.value,
        condition.value, (type.dateFormat?.map dates.forFormat).getD dates⟩ =
      (condition.input dates type).ask (c.target.ofTest type.isDateOnly found.field) :=
  c.target.transform_eq _

/-- A condition that is not refused asks no test, or its test is given to the target. -/
theorem onAttribute_cases (h : c.onAttribute dates found condition type = .ok o) :
    (∃ why, condition.test? dates type = none ∧ o = .dropped why) ∨
      ∃ t p, condition.test? dates type = some t ∧
        c.target.ofTest type.isDateOnly found.field t = .ok p ∧ o = .kept p found.relation := by
  unfold onAttribute at h
  simp only [transform_input, ConditionInput.ask] at h
  have hinput : (condition.input dates type).operator =
      condition.operator.resolve condition.value := rfl
  split at h
  · next key hkey =>
    cases h
    refine Or.inl ⟨_, ?_, rfl⟩
    have htest : (condition.input dates type).test = .ok none := by
      rw [ConditionInput.test, hinput, hkey]
    simp only [Condition.test?, htest]
    split <;> simp_all
  · split at h
    · cases h
    · split at h
      · next happ =>
        cases h
        exact Or.inl ⟨_, by simp [Condition.test?, happ], rfl⟩
      · cases h
      · next happ =>
        rcases htest : (condition.input dates type).test with why | (- | t)
        · rw [htest] at h
          cases h
        · rw [htest] at h
          cases h
          exact Or.inl ⟨_, by simp [Condition.test?, happ, htest], rfl⟩
        · cases hp : c.target.ofTest type.isDateOnly found.field t with
          | error why => simp [htest, hp, bind, Except.bind] at h
          | ok p =>
            refine Or.inr ⟨t, p, by simp [Condition.test?, happ, htest], hp, ?_⟩
            simpa [htest, hp, bind, Except.bind, pure, Except.pure, eq_comm] using h

/-- A condition is about a field of the record itself or about one that a lookup leads to. -/
theorem locate_cases (h : c.locate schema condition = .ok found) :
    (condition.extendedKey = none ∧
        found = ⟨⟨c.target.qualifier schema, condition.field⟩,
          schema.attribute? condition.field, none⟩) ∨
      ∃ key target reference related, condition.extendedKey = some key ∧
        schema.attribute? condition.field = some (.lookup target reference) ∧
        c.store.get? target = some related ∧
        found = ⟨⟨some (c.target.handle condition.field related), key⟩, related.attribute? key,
          some ⟨c.target.handle condition.field related, condition.field,
            related.logicalName⟩⟩ := by
  unfold locate at h
  split at h
  · next hkey =>
    cases h
    exact Or.inl ⟨hkey, rfl⟩
  · next key hkey =>
    split at h
    · cases h
    · next target reference hlookup =>
      split at h
      · cases h
      · next related hrelated =>
        cases h
        exact Or.inr ⟨key, target, reference, related, hkey, hlookup, hrelated, rfl⟩
    · cases h

theorem type_of_locate (h : c.locate schema condition = .ok found) :
    found.type = condition.attribute? c.store schema := by
  rcases locate_cases h with
    ⟨hkey, rfl⟩ | ⟨key, target, reference, related, hkey, hlookup, hrel, rfl⟩
  · simp [Condition.attribute?, hkey]
  · simp [Condition.attribute?, hkey, hlookup, hrel]

theorem exists_locate (h : condition.attribute? c.store schema = some type) :
    ∃ found, c.locate schema condition = .ok found := by
  unfold Condition.attribute? at h
  unfold locate
  cases hkey : condition.extendedKey with
  | none => exact ⟨_, rfl⟩
  | some key =>
    rw [hkey] at h
    dsimp only at h ⊢
    split at h
    · next hlookup =>
      obtain ⟨related, hrelated, -⟩ := Option.bind_eq_some_iff.1 h
      rw [hlookup]
      exact ⟨_, by simp only [hrelated]; rfl⟩
    · cases h

/-- What becomes of a condition that is not refused: it asks nothing and is dropped, or the target
gives the predicate of its test. -/
theorem outcome_cases (h : c.outcome dates schema condition = .ok o) :
    ∃ found a, c.locate schema condition = .ok found ∧
      condition.attribute? c.store schema = some a ∧
      ((∃ why, condition.test? dates a = none ∧ o = .dropped why) ∨
        ∃ t p, condition.test? dates a = some t ∧
          c.target.ofTest a.isDateOnly found.field t = .ok p ∧ o = .kept p found.relation) := by
  simp only [outcome, Results.bind_eq_ok] at h
  obtain ⟨found, hfound, h⟩ := h
  unfold onLocated at h
  split at h
  · next a ha => exact ⟨found, a, hfound, (type_of_locate hfound) ▸ ha, onAttribute_cases h⟩
  · cases h

end Compiler
end RecordFilter
