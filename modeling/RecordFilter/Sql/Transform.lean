import RecordFilter.Sql.Clause
import RecordFilter.Proofs.Results
/-!
# Conditions as where clauses

The clause of a relational database that a condition becomes, operator by operator.

## Main definitions

* `Clause.transform`.

## Main statements

* `Clause.transform_eq` — the clause is the one of the test that the condition asks.
-/
namespace RecordFilter

namespace Clause

/-- The clause of a day that begins and ends. -/
def onDay (column : Column) (dateOnly : Bool) : Window → Except ValueError Clause
  | .between start finish => do
    let low ← bound dateOnly start
    let high ← lastBefore dateOnly finish
    return .between column low high
  | .since _ => .error .notBoundedDay
  | .before _ => .error .notBoundedDay

/-- The clause of everything up to the end of a day. -/
def throughDay (column : Column) (dateOnly : Bool) (w : Window) : Except ValueError Clause :=
  match w.finish? with
  | some finish => do return .compare column .lte (← lastBefore dateOnly finish)
  | none => .error .noEndBound

/-- The clause of a condition; an unknown operator has none. `anyCase` asks for pattern tests that
ignore letter case. -/
def transform (anyCase : Bool) (i : ConditionInput) : Except ValueError (Option Clause) :=
  let column : Column := i.field
  let dateOnly := i.type.isDateOnly
  match i.operator with
  | .compare c => do return some (.compare column c.comparator (value (← i.scalar)))
  | .pattern place negated => do
    return some (.like column anyCase (patternOf place.anchor (← i.text)) negated)
  | .equality false =>
    match i.type with
    | .string => do return some (.like column anyCase (patternOf .whole (← i.text)) false)
    | .choices _ => do return some (.contains column (value (← i.scalar)))
    | _ => do return some (.compare column .eq (value (← i.scalar)))
  | .equality true =>
    match i.type with
    | .string => do
      return some (orNull column (.like column anyCase (patternOf .whole (← i.text)) true))
    | .choices _ => do
      return some (orNull column (.not (.contains column (value (← i.scalar)))))
    | _ => do return some (orNull column (.compare column .ne (value (← i.scalar))))
  | .nullity negated => .ok (some (.isNull column negated))
  | .membership false =>
    match i.type with
    | .boolean => do return some (flags column (Flags.ofScalars (← i.scalars)) false)
    | .choices _ => do return some (containsAny column ((← i.scalars).map value))
    | _ => do return some (.member column ((← i.scalars).map value) false)
  | .membership true =>
    match i.type with
    | .boolean => do return some (flags column (Flags.ofScalars (← i.scalars)) true)
    | .choices _ => do
      return some (orNull column (.not (containsAny column ((← i.scalars).map value))))
    | _ => do return some (orNull column (.member column ((← i.scalars).map value) true))
  | .between => do
    let (low, high) ← i.range
    return some (range column low high)
  | .date (.day .on) => do return some (← onDay column dateOnly (← i.window))
  | .date (.day .onOrBefore) => do return some (← throughDay column dateOnly (← i.window))
  | .date _ => do return some (← window column dateOnly (← i.window))
  | .unknown _ => .ok none

end Clause

namespace DateContext

variable {c : DateContext} {v : Json} {w : Window}

/-- The window of a day begins and ends. -/
theorem exists_between_of_on (h : c.window (.day .on) v = .ok w) :
    ∃ start finish, w = .between start finish := by
  simp only [window, windowOn, days, Results.bind_eq_ok, Results.pure_eq_ok] at h
  obtain ⟨_, -, _, -, _, -, start, -, _, -, finish, -, rfl⟩ := h
  exact ⟨start, finish, rfl⟩

/-- The window up to the end of a day ends. -/
theorem exists_before_of_onOrBefore (h : c.window (.day .onOrBefore) v = .ok w) :
    ∃ finish, w = .before finish := by
  simp only [window, windowOn, Results.bind_eq_ok, Results.pure_eq_ok] at h
  obtain ⟨_, -, _, -, _, -, finish, -, rfl⟩ := h
  exact ⟨finish, rfl⟩

end DateContext

namespace Clause

/-- A condition becomes the clause of the test that it asks. -/
theorem transform_eq (anyCase : Bool) (i : ConditionInput) :
    transform anyCase i = i.ask (ofTest anyCase i.type.isDateOnly i.field) := by
  obtain ⟨field, type, operator, value, dates⟩ := i
  cases operator with
  | compare c =>
    simp only [transform, ConditionInput.ask, ConditionInput.test]
    cases ConditionInput.scalar _ <;> rfl
  | pattern place negated =>
    simp only [transform, ConditionInput.ask, ConditionInput.test]
    cases ConditionInput.text _ <;> rfl
  | equality negated =>
    cases type with
    | string =>
      cases negated <;> simp only [transform, ConditionInput.ask, ConditionInput.test,
        ConditionInput.equalityTest] <;> cases ConditionInput.text _ <;> rfl
    | _ =>
      cases negated <;> simp only [transform, ConditionInput.ask, ConditionInput.test,
        ConditionInput.equalityTest] <;> cases ConditionInput.scalar _ <;> rfl
  | nullity negated => rfl
  | membership negated =>
    cases type <;> cases negated <;> simp only [transform, ConditionInput.ask,
      ConditionInput.test, ConditionInput.membershipTest] <;>
      cases ConditionInput.scalars _ <;> rfl
  | between =>
    simp only [transform, ConditionInput.ask, ConditionInput.test]
    cases ConditionInput.range _ <;> rfl
  | date o =>
    simp only [ConditionInput.ask, ConditionInput.test, ConditionInput.dateTest]
    -- only the two operators that end with a day have clauses of their own
    match o with
    | .day .on =>
      simp only [transform, ConditionInput.window, DateContext.windowOf]
      cases hw : dates.window (.day .on) value with
      | error why => rfl
      | ok w =>
        obtain ⟨start, finish, rfl⟩ := DateContext.exists_between_of_on hw
        rfl
    | .day .onOrBefore =>
      simp only [transform, ConditionInput.window, DateContext.windowOf]
      cases hw : dates.window (.day .onOrBefore) value with
      | error why => rfl
      | ok w =>
        obtain ⟨finish, rfl⟩ := DateContext.exists_before_of_onOrBefore hw
        rfl
    | .day .onOrAfter | .calendar _ | .rolling _ _ =>
      simp only [transform, ConditionInput.window, DateContext.windowOf]
      cases dates.window _ value <;> rfl
  | unknown key => rfl

end Clause
end RecordFilter
