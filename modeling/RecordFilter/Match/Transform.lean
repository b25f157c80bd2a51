import RecordFilter.Match.Basic
/-!
# Conditions as match predicates

The predicate of a document store that a condition becomes, operator by operator.

## Main definitions

* `Match.transform`.

## Main statements

* `Match.transform_eq` — the predicate is the one of the test that the condition asks.
-/
namespace RecordFilter.Match

def compare (path : String) (c : Comparator) (s : Scalar) : Match :=
  .field path [.compare c (some s)]

def regex (path pattern : String) : Match := .field path [.regex pattern false]

/-- Present values that do not match. -/
def notRegex (path pattern : String) : Match :=
  .field path [.compare .ne none, .regex pattern true]

/-- All values but the text in any letter case, and no value. -/
def notEqualText (path text : String) : Match := .field path [.regex (regexOf .whole text) true]

def notNull (path : String) : Match := .field path [.isPresent, .compare .ne none]

/-- Membership of truth values, where false also stands for no value. -/
def booleanMembership (path : String) (ss : List Scalar) (negated : Bool) : Match :=
  .field path [.member (flagOperands (Flags.ofScalars ss)) negated]

def range (path : String) (low : Scalar) (high : UpperBound) : Match :=
  .field path [.compare .gte (some low), upperOperator high]

def window (path : String) (w : Window) : Match := .field path (windowOperators w)

/-- The predicate of a condition; an unknown operator has none. -/
def transform (i : ConditionInput) : Except ValueError (Option Match) :=
  let path := i.field.path
  match i.operator with
  | .compare c => do return some (compare path c.comparator (← i.scalar))
  | .pattern place false => do return some (regex path (regexOf place.anchor (← i.text)))
  | .pattern place true => do return some (notRegex path (regexOf place.anchor (← i.text)))
  | .equality false =>
    match i.type with
    | .string => do return some (regex path (regexOf .whole (← i.text)))
    | _ => do return some (compare path .eq (← i.scalar))
  | .equality true =>
    match i.type with
    | .string => do return some (notEqualText path (← i.text))
    | _ => do return some (compare path .ne (← i.scalar))
  | .nullity false => .ok (some (.isNull path))
  | .nullity true => .ok (some (notNull path))
  | .membership negated =>
    match i.type with
    | .boolean => do return some (booleanMembership path (← i.scalars) negated)
    | _ => do return some (membership path (← i.scalars) negated)
  | .between => do
    let (low, high) ← i.range
    return some (range path low high)
  | .date _ => do return some (window path (← i.window))
  | .unknown _ => .ok none

/-- A condition becomes the predicate of the test that it asks. -/
theorem transform_eq (i : ConditionInput) :
    transform i = i.ask fun t => .ok (ofTest i.field.path t) := by
  obtain ⟨field, type, operator, value, dates⟩ := i
  cases operator with
  | compare c =>
    simp only [transform, ConditionInput.ask, ConditionInput.test]
    cases ConditionInput.scalar _ <;> rfl
  | pattern place negated =>
    cases negated <;> simp only [transform, ConditionInput.ask, ConditionInput.test] <;>
      cases ConditionInput.text _ <;> rfl
  | equality negated =>
    cases type with
    | string =>
      cases negated <;> simp only [transform, ConditionInput.ask, ConditionInput.test,
        ConditionInput.equalityTest] <;> cases ConditionInput.text _ <;> rfl
    | _ =>
      cases negated <;> simp only [transform, ConditionInput.ask, ConditionInput.test,
        ConditionInput.equalityTest] <;> cases ConditionInput.scalar _ <;> rfl
  | nullity negated => cases negated <;> rfl
  | membership negated =>
    cases type <;> simp only [transform, ConditionInput.ask, ConditionInput.test,
      ConditionInput.membershipTest] <;> cases ConditionInput.scalars _ <;> rfl
  | between =>
    simp only [transform, ConditionInput.ask, ConditionInput.test]
    cases ConditionInput.range _ <;> rfl
  | date o =>
    simp only [transform, ConditionInput.ask, ConditionInput.test, ConditionInput.window,
      DateContext.windowOf, ConditionInput.dateTest]
    split <;> cases DateContext.window _ _ _ <;> rfl
  | unknown key => rfl

end RecordFilter.Match
