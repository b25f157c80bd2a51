import RecordFilter.Number.Basic
import RecordFilter.Text.Blank
/-!
# Numerals

How the text of a number is turned into its value. A numeral of a document keeps as many leading
digits as fit 64 bits and is then scaled once by a power of ten, so a long one may come out a unit
beside the nearest double. A numeral inside a text value is rounded to the nearest double.

## Main definitions

* `Numeral.toNumber?` — the value of a numeral of a document; `none` beyond the range of doubles.
* `Binary64.ofText?`, `Number.ofText?` — the value of a numeral inside a text.
-/
namespace RecordFilter

/-- The parts of a numeral. -/
structure Numeral where
  negative : Bool
  whole : List Char
  fraction : Option (List Char)
  exponent : Option Int

namespace Numeral

/-- Digits are taken while the significand fits 64 bits; what is left follows. -/
def takeDigits (significand : Nat) : List Char → Nat × List Char
  | [] => (significand, [])
  | c :: cs =>
    let next := 10 * significand + Text.digitValue c
    if fitsNat64 next then takeDigits next cs else (significand, c :: cs)

/-- A significand scaled by a power of ten, with one rounding for each factor up to `10 ^ 308`. -/
def scaled? (significand : Nat) (exponent : Int) : Option Binary64 :=
  let x := Binary64.ofNat significand
  if 308 < exponent then if significand = 0 then some x else none
  else if 0 ≤ exponent then
    let y := x.mul (.powerOfTen exponent.toNat)
    if y.isFinite then some y else none
  else if -308 ≤ exponent then some (x.div (.powerOfTen (-exponent).toNat))
  else if -616 ≤ exponent then
    some ((x.div (.powerOfTen 308)).div (.powerOfTen (-exponent - 308).toNat))
  else some (.zero false)

/-- A whole numeral that fits 64 bits; a negative zero is not an integer. -/
def integer? (negative : Bool) (significand : Nat) : Option Int :=
  if negative then
    let z := -(significand : Int)
    if significand ≠ 0 && fitsInt64 z then some z else none
  else some significand

def signed (negative : Bool) (x : Binary64) : Binary64 := if negative then x.neg else x

def toNumber? (l : Numeral) : Option Number :=
  let (whole, beyond) := takeDigits 0 l.whole
  match l.fraction, l.exponent, beyond with
  | none, none, [] =>
    match integer? l.negative whole with
    | some z => some (.int z)
    | none => some (.float (signed l.negative (.ofNat whole)))
  | fraction, exponent, beyond =>
    let fraction := fraction.getD []
    let (significand, unread) := takeDigits whole fraction
    let scale := (beyond.length : Int) - (fraction.length - unread.length : Nat)
    (scaled? significand (scale + exponent.getD 0)).map fun x => .float (signed l.negative x)

end Numeral

namespace Binary64

/-- `digits * 10 ^ exponent`, rounded once. Exponents far outside the range of doubles are decided
by the number of digits alone. -/
def ofDecimal (digits : Nat) (exponent : Int) : Binary64 :=
  let magnitude := ((Text.natDigits digits).length : Int) + exponent
  if digits = 0 || magnitude < -330 then zero false
  else if 330 < magnitude then .infinite false
  else if exponent < 0 then ofRatio false digits (tenPow (-exponent).toNat)
  else ofRatio false (digits * tenPow exponent.toNat) 1

/-- The power of ten of a numeral: nothing, or `e` with an integer. -/
def readExponent? : List Char → Option Int
  | [] => some 0
  | c :: cs => if c = 'e' || c = 'E' then Text.readInt? cs else none

/-- An unsigned numeral: digits with an optional point and power of ten, or a name of infinity or
of what is not a number. -/
def readUnsigned? (cs : List Char) : Option Binary64 :=
  let name := cs.map Char.toLower
  if name = "inf".toList || name = "infinity".toList then some (.infinite false)
  else if name = "nan".toList then some .nan
  else
    let (whole, rest) := Text.spanDigits cs
    let (fraction, rest) :=
      match rest with
      | '.' :: rest => Text.spanDigits rest
      | rest => ([], rest)
    if whole = [] && fraction = [] then none
    else
      (readExponent? rest).map fun e =>
        ofDecimal (Text.ofDigits (whole ++ fraction)) (e - fraction.length)

/-- The double nearest to the numeral that a text consists of. -/
def ofText? (s : String) : Option Binary64 :=
  match s.toList with
  | '-' :: cs => (readUnsigned? cs).map neg
  | '+' :: cs => readUnsigned? cs
  | cs => readUnsigned? cs

end Binary64

/-- A text as a number: an integer that fits 64 bits with a sign, or else a finite double. -/
def Number.ofText? (s : String) : Option Number :=
  let s := Text.trim s
  match (Text.readInt? s.toList).filter fitsInt64 with
  | some z => some (.int z)
  | none => ((Binary64.ofText? s).filter Binary64.isFinite).map .float

end RecordFilter
