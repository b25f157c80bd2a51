/-!
# Powers and words

Powers of two and of ten, and the integers that fit words of 32 and of 64 bits.

## Main definitions

* `twoPow`, `tenPow` — powers as functions of the exponent.
* `fitsInt64`, `fitsNat64`, `fitsInt32`, `fitsNat32` — integers that fit a word, with a sign or
  without one.
-/
namespace RecordFilter

/-- Two to the power of `n`. -/
def twoPow (n : Nat) : Nat := Nat.pow 2 n

/-- Ten to the power of `n`. -/
def tenPow (n : Nat) : Nat := Nat.pow 10 n

@[simp] theorem twoPow_zero : twoPow 0 = 1 := rfl

@[simp] theorem tenPow_zero : tenPow 0 = 1 := rfl

theorem tenPow_succ (n : Nat) : tenPow (n + 1) = tenPow n * 10 := rfl

/-- Two to the power of 64. -/
def nat64Bound : Nat := 18446744073709551616

/-- Two to the power of 32. -/
def nat32Bound : Nat := 4294967296

def fitsNat64 (n : Nat) : Bool := n < nat64Bound

def fitsNat32 (n : Nat) : Bool := n < nat32Bound

def fitsInt64 (z : Int) : Bool := -9223372036854775808 ≤ z && z ≤ 9223372036854775807

def fitsInt32 (z : Int) : Bool := -2147483648 ≤ z && z ≤ 2147483647

theorem fitsInt64_iff {z : Int} :
    fitsInt64 z = true ↔ -9223372036854775808 ≤ z ∧ z ≤ 9223372036854775807 := by
  simp only [fitsInt64, Bool.and_eq_true, decide_eq_true_eq]

example : (twoPow 64, twoPow 32) = (nat64Bound, nat32Bound) := by decide

end RecordFilter
