import RecordFilter.Number.Binary64
import RecordFilter.Text.Digits
/-!
# Shortest decimals

The decimal with the fewest digits that reads back as a given double, and the text it is written
with. A double is the nearest one to every real in an interval around it, the two ends included
exactly when its significand is even. `Decimal.shortest` tries 1, 2, … digits: if any decimal of
that many digits lies in the interval, so does one of the two next to the double itself.
-/
namespace RecordFilter

/-- `digits * 10 ^ exponent`. -/
structure Decimal where
  digits : Nat
  exponent : Int
  deriving DecidableEq, Repr

namespace Decimal

/-- The reals that round to `m * 2 ^ e`, in units of `2 ^ (e - 2)`. The gap below a power of two is
half as wide as the gap above it. -/
structure Interval where
  low : Nat
  mid : Nat
  high : Nat
  closed : Bool

def interval (m : Nat) (e : Int) : Interval where
  low := 4 * m - (if m = Binary64.leastNormal && Binary64.minExponent < e then 1 else 2)
  mid := 4 * m
  high := 4 * m + 2
  closed := m % 2 = 0

/-- `d * 10 ^ k` and one unit of `2 ^ q`, brought to a common measure. -/
def commonMeasure (d : Nat) (k q : Int) : Nat × Nat :=
  let d := if k < 0 then d else d * tenPow k.toNat
  let unit := if k < 0 then tenPow (-k).toNat else 1
  if q < 0 then (d * twoPow (-q).toNat, unit) else (d, unit * twoPow q.toNat)

/-- Whether `d * 10 ^ k` rounds to `m * 2 ^ e`. -/
def readsBack (m : Nat) (e : Int) (d : Nat) (k : Int) : Bool :=
  let i := interval m e
  let (x, unit) := commonMeasure d k (e - 2)
  if i.closed then i.low * unit ≤ x && x ≤ i.high * unit
  else i.low * unit < x && x < i.high * unit

/-- The distance of `d * 10 ^ k` from `m * 2 ^ e`, comparable between decimals of one exponent. -/
def distance (m : Nat) (e : Int) (d : Nat) (k : Int) : Nat :=
  let (x, unit) := commonMeasure d k (e - 2)
  let v := (interval m e).mid * unit
  (x - v) + (v - x)

/-- The integer part of `m * 2 ^ e / 10 ^ k`. -/
def floorAt (m : Nat) (e k : Int) : Nat :=
  let (n, d) := Binary64.ratio m e
  if k < 0 then n * tenPow (-k).toNat / d else n / (d * tenPow k.toNat)

/-- The number of digits before the point of `m * 2 ^ e`, counted down below one: the value is at
least `10 ^ (p - 1)` and less than `10 ^ p`. -/
def magnitude (m : Nat) (e : Int) : Int :=
  ((Text.natDigits (floorAt m e (-330))).length : Int) - 330

/-- Of the two decimals with exponent `k` next to the value, the nearer one that reads back; an
exact tie goes to the even digits. -/
def nearest? (m : Nat) (e k : Int) : Option Nat :=
  let d := floorAt m e k
  match readsBack m e d k, readsBack m e (d + 1) k with
  | false, false => none
  | true, false => some d
  | false, true => some (d + 1)
  | true, true =>
    let below := distance m e d k
    let above := distance m e (d + 1) k
    if below < above || (below == above && d % 2 == 0) then some d else some (d + 1)

def dropTrailingZeros : Nat → Decimal → Decimal
  | 0, x => x
  | fuel + 1, x =>
    if x.digits ≠ 0 && x.digits % 10 == 0 then
      dropTrailingZeros fuel ⟨x.digits / 10, x.exponent + 1⟩
    else x

/-- The search at `n`, `n + 1`, … digits; seventeen always suffice. -/
def search (m : Nat) (e p : Int) (n : Nat) : Nat → Decimal
  | 0 => ⟨floorAt m e (p - n), p - n⟩
  | more + 1 =>
    match nearest? m e (p - n) with
    | some d => dropTrailingZeros n ⟨d, p - n⟩
    | none => search m e p (n + 1) more

/-- The shortest decimal of `m * 2 ^ e`, `m` positive. -/
def shortest (m : Nat) (e : Int) : Decimal := search m e (magnitude m e) 1 17

end Decimal

/-- How a number with a fraction is written: which powers of ten are written positionally. -/
structure FloatLayout where
  /-- The least power of ten that is written positionally. -/
  leastPositional : Int
  /-- The least power of ten above the positional ones. -/
  leastScientific : Int

namespace FloatLayout

/-- JSON numbers are positional from `1e-5` up to `1e16`. -/
def json : FloatLayout := ⟨-5, 16⟩

/-- `0.00ddd`, `dd.ddd` or `ddd00.0`. -/
def positional (digits : List Char) (power : Int) : List Char :=
  if power < 0 then '0' :: '.' :: List.replicate (-power - 1).toNat '0' ++ digits
  else
    let whole := (power + 1).toNat
    if digits.length ≤ whole then
      digits ++ List.replicate (whole - digits.length) '0' ++ ['.', '0']
    else digits.take whole ++ '.' :: digits.drop whole

/-- `d.ddde+16` or `de-7`. -/
def scientific (digits : List Char) (power : Int) : List Char :=
  let mark := if power < 0 then ['e', '-'] else ['e', '+']
  let tail := mark ++ Text.natDigits power.natAbs
  match digits with
  | d :: r :: rest => d :: '.' :: r :: rest ++ tail
  | digits => digits ++ tail

def write (l : FloatLayout) (x : Decimal) : List Char :=
  let digits := Text.natDigits x.digits
  let power := (digits.length : Int) + x.exponent - 1
  if l.leastPositional ≤ power && power < l.leastScientific then positional digits power
  else scientific digits power

end FloatLayout

/-- The text of a finite double; a double that is not finite has none. -/
def Binary64.text? (x : Binary64) : Option String :=
  match x with
  | .finite s m e =>
    let body := if m = 0 then ['0', '.', '0'] else FloatLayout.json.write (Decimal.shortest m e)
    some (String.ofList (if s then '-' :: body else body))
  | _ => none

end RecordFilter
