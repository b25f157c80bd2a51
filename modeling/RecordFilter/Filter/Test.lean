import RecordFilter.Filter.Scalar
/-!
# Tests of a field

What a condition asks once its value has been read: a test with values in stored form, the same
for every kind of database.

## Main definitions

* `FieldRef` — where the value that is tested is found.
* `Test` — the tests.
* `ConditionInput.test` — the test that an operator asks of an attribute.
* `ConditionInput.ask` — the predicate of that test.
-/
namespace RecordFilter

/-- A field, behind a table or a relation if there is a qualifier. -/
structure FieldRef where
  qualifier : Option String
  name : String
  deriving DecidableEq, Repr

def FieldRef.path (f : FieldRef) : String :=
  match f.qualifier with
  | some q => q ++ "." ++ f.name
  | none => f.name

/-- To which ends of a value a text is tied. -/
structure Anchor where
  atStart : Bool
  atEnd : Bool
  deriving DecidableEq, Repr

def Anchor.whole : Anchor := ⟨true, true⟩

def Placement.anchor : Placement → Anchor
  | .anywhere => ⟨false, false⟩
  | .start => ⟨true, false⟩
  | .ending => ⟨false, true⟩

/-- A set of truth values. -/
structure Flags where
  wantsTrue : Bool
  wantsFalse : Bool
  deriving DecidableEq, Repr

def Flags.ofScalars (ss : List Scalar) : Flags := ⟨ss.elem (.bool true), ss.elem (.bool false)⟩

/-- A negated test of a value also holds where there is no value, except for `pattern`. -/
inductive Test where
  | compare (c : Comparison) (s : Scalar)
  /-- The text occurs in the value, which is there. -/
  | pattern (anchor : Anchor) (text : String) (negated : Bool)
  /-- The value is the text, in any letter case. -/
  | sameText (text : String) (negated : Bool)
  | equal (s : Scalar) (negated : Bool)
  /-- One of several values is equal. -/
  | contains (s : Scalar) (negated : Bool)
  | isNull (negated : Bool)
  | member (ss : List Scalar) (negated : Bool)
  /-- One of several values is a member. -/
  | containsAny (ss : List Scalar) (negated : Bool)
  /-- Membership of truth values, where false also stands for no value. -/
  | flags (f : Flags) (negated : Bool)
  | range (low : Scalar) (high : UpperBound)
  | window (w : Window)
  /-- A window whose end is the end of a day. -/
  | wholeDays (w : Window)
  deriving Repr

/-- A condition whose field and attribute have been found. -/
structure ConditionInput where
  field : FieldRef
  type : Attribute
  operator : Operator
  value : Json
  dates : DateContext

namespace ConditionInput

def scalar (i : ConditionInput) : Except ValueError Scalar := i.type.coerce i.dates i.value

def scalars (i : ConditionInput) : Except ValueError (List Scalar) :=
  i.type.coerceList i.dates i.value

def text (i : ConditionInput) : Except ValueError String := Attribute.patternText i.value

def range (i : ConditionInput) : Except ValueError (Scalar × UpperBound) :=
  i.type.coerceRange i.dates i.value

def window (i : ConditionInput) : Except ValueError Window := i.dates.windowOf i.operator i.value

def equalityTest (i : ConditionInput) (negated : Bool) : Except ValueError Test :=
  match i.type with
  | .string => do return .sameText (← i.text) negated
  | .choices _ => do return .contains (← i.scalar) negated
  | _ => do return .equal (← i.scalar) negated

def membershipTest (i : ConditionInput) (negated : Bool) : Except ValueError Test :=
  match i.type with
  | .boolean => do return .flags (Flags.ofScalars (← i.scalars)) negated
  | .choices _ => do return .containsAny (← i.scalars) negated
  | _ => do return .member (← i.scalars) negated

def dateTest (i : ConditionInput) (d : DateOperator) : Except ValueError Test :=
  match d with
  | .day .on => do return .wholeDays (← i.dates.window d i.value)
  | .day .onOrBefore => do return .wholeDays (← i.dates.window d i.value)
  | _ => do return .window (← i.dates.window d i.value)

/-- The test that the condition asks; an unknown operator asks none. -/
def test (i : ConditionInput) : Except ValueError (Option Test) :=
  match i.operator with
  | .compare c => do return some (.compare c (← i.scalar))
  | .pattern place negated => do return some (.pattern place.anchor (← i.text) negated)
  | .equality negated => some <$> i.equalityTest negated
  | .nullity negated => .ok (some (.isNull negated))
  | .membership negated => some <$> i.membershipTest negated
  | .between => do
    let (low, high) ← i.range
    return some (.range low high)
  | .date d => some <$> i.dateTest d
  | .unknown _ => .ok none

/-- The predicate of the test that the condition asks, given those of tests. -/
def ask {P : Type} (i : ConditionInput) (predicate : Test → Except ValueError P) :
    Except ValueError (Option P) := do
  match ← i.test with
  | none => return none
  | some t => return some (← predicate t)

end ConditionInput
end RecordFilter
