import RecordFilter.Number.Shortest
/-!
# Numbers of a document

A number is an exact integer or a double. Integers between `-2 ^ 63` and `2 ^ 64 - 1` are read
exactly; everything else is a double.
-/
namespace RecordFilter

inductive Number where
  | int (z : Int)
  | float (x : Binary64)
  deriving DecidableEq, Repr

namespace Number

/-- A double that is not finite has no numeral and is written `null`. -/
def text : Number → String
  | .int z => Text.intText z
  | .float x => x.text?.getD "null"

/-- The integer, if it fits 64 bits with a sign. -/
def toInt64? : Number → Option Int
  | .int z => if fitsInt64 z then some z else none
  | .float _ => none

/-- The integer, if it fits 64 bits without a sign. -/
def toNat64? : Number → Option Nat
  | .int (.ofNat n) => if fitsNat64 n then some n else none
  | _ => none

/-- The nearest double. -/
def toBinary64 : Number → Binary64
  | .int z => Binary64.ofInt z
  | .float x => x

/-- The exact value, if it is finite. -/
def toRat? : Number → Option Rat
  | .int z => some z
  | .float x => x.toRat?

@[simp] theorem toInt64?_int {z : Int} (h : fitsInt64 z = true) : (int z).toInt64? = some z := by
  simp [toInt64?, h]

theorem eq_int_of_toInt64? {n : Number} {z : Int} (h : n.toInt64? = some z) : n = .int z := by
  cases n with
  | int w =>
    simp only [toInt64?] at h
    split at h <;> simp_all
  | float x => simp [toInt64?] at h

end Number
end RecordFilter
