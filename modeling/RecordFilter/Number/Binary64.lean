import RecordFilter.Number.Words
/-!
# Double precision numbers

A double is kept as its sign, its significand and its binary exponent, so that values are compared
and rounded in exact integer arithmetic. `Binary64.ofRatio` rounds a quotient to the nearest
double, an exact tie to the even significand; multiplication and division round the exact result.
-/
namespace RecordFilter

/-- `finite s m e` stands for `m * 2 ^ e`, negated if `s`; the significand lies below `2 ^ 53`, and
reaches `2 ^ 52` unless the exponent is the least one. -/
inductive Binary64 where
  | finite (negative : Bool) (significand : Nat) (exponent : Int)
  | infinite (negative : Bool)
  | nan
  deriving DecidableEq, Repr

namespace Binary64

def minExponent : Int := -1074

def maxExponent : Int := 971

/-- Two to the power of 52, the least significand above the least exponent. -/
def leastNormal : Nat := 4503599627370496

/-- The two places at which a quotient is scaled: `num / den` measured in units of `2 ^ e`. -/
def scale (num den : Nat) (e : Int) : Nat × Nat :=
  if e < 0 then (num * twoPow (-e).toNat, den) else (num, den * twoPow e.toNat)

/-- The quotient rounded to the nearest integer, an exact half to the even neighbour. -/
def roundHalfEven (num den : Nat) : Nat :=
  let q := num / den
  let r := num % den
  if den < 2 * r || (2 * r == den && q % 2 == 1) then q + 1 else q

/-- The exponent of the greatest power of two that is at most `num / den`. -/
def floorLog2 (num den : Nat) : Int :=
  let guess : Int := (num.log2 : Int) - (den.log2 : Int)
  let (n, d) := scale num den guess
  if d ≤ n then guess else guess - 1

/-- A significand in units of `2 ^ e` as a double, when it may have reached `2 ^ 53`. -/
def normalize (negative : Bool) (m : Nat) (e : Int) : Binary64 :=
  let (m, e) := if m = 2 * leastNormal then (leastNormal, e + 1) else (m, e)
  if maxExponent < e then .infinite negative else .finite negative m e

/-- The double nearest to `num / den`. -/
def ofRatio (negative : Bool) (num den : Nat) : Binary64 :=
  if num = 0 then .finite negative 0 minExponent
  else
    let e := max minExponent (floorLog2 num den - 52)
    let (n, d) := scale num den e
    normalize negative (roundHalfEven n d) e

def ofNat (n : Nat) : Binary64 := ofRatio false n 1

def ofInt (z : Int) : Binary64 := ofRatio (z < 0) z.natAbs 1

def zero (negative : Bool) : Binary64 := .finite negative 0 minExponent

def neg : Binary64 → Binary64
  | .finite s m e => .finite (!s) m e
  | .infinite s => .infinite (!s)
  | .nan => .nan

/-- The absolute value of a finite double as a quotient. -/
def ratio (m : Nat) (e : Int) : Nat × Nat :=
  if e < 0 then (m, twoPow (-e).toNat) else (m * twoPow e.toNat, 1)

def mul : Binary64 → Binary64 → Binary64
  | .finite s m e, .finite t n f =>
    let (a, b) := ratio m e
    let (c, d) := ratio n f
    ofRatio (s != t) (a * c) (b * d)
  | .infinite s, .finite t n _ => if n = 0 then .nan else .infinite (s != t)
  | .finite s m _, .infinite t => if m = 0 then .nan else .infinite (s != t)
  | .infinite s, .infinite t => .infinite (s != t)
  | .nan, _ => .nan
  | _, .nan => .nan

def div : Binary64 → Binary64 → Binary64
  | .finite s m e, .finite t n f =>
    if n = 0 then (if m = 0 then .nan else .infinite (s != t))
    else
      let (a, b) := ratio m e
      let (c, d) := ratio n f
      ofRatio (s != t) (a * d) (b * c)
  | .infinite s, .finite t _ _ => .infinite (s != t)
  | .finite s _ _, .infinite t => zero (s != t)
  | .infinite _, .infinite _ => .nan
  | .nan, _ => .nan
  | _, .nan => .nan

/-- The double nearest to `10 ^ n`. -/
def powerOfTen (n : Nat) : Binary64 := ofNat (tenPow n)

def isFinite : Binary64 → Bool
  | .finite .. => true
  | _ => false

def isZero : Binary64 → Bool
  | .finite _ m _ => m == 0
  | _ => false

/-- The exact value of a finite double. -/
def toRat? : Binary64 → Option Rat
  | .finite s m e =>
    let (n, d) := ratio m e
    some (mkRat (if s then -(n : Int) else n) d)
  | _ => none

@[simp] theorem neg_neg (x : Binary64) : x.neg.neg = x := by
  cases x <;> simp [neg]

@[simp] theorem isFinite_neg (x : Binary64) : x.neg.isFinite = x.isFinite := by
  cases x <;> rfl

@[simp] theorem isFinite_zero (s : Bool) : (zero s).isFinite = true := rfl

end Binary64
end RecordFilter
