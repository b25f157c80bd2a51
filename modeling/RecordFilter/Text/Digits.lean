/-!
# Decimal digits

Reading and writing of natural numbers and integers in base ten, over lists of characters.
-/
namespace RecordFilter.Text

def digitValue (c : Char) : Nat := c.toNat - '0'.toNat

/-- The longest run of digits at the front, and what follows it. -/
def spanDigits (cs : List Char) : List Char × List Char :=
  (cs.takeWhile Char.isDigit, cs.dropWhile Char.isDigit)

/-- The number that a run of digits denotes; `0` for the empty run. -/
def ofDigits (cs : List Char) : Nat := cs.foldl (fun n c => 10 * n + digitValue c) 0

/-- A run of digits read whole: at least one digit and nothing else. -/
def readNat? (cs : List Char) : Option Nat :=
  if cs ≠ [] && cs.all Char.isDigit then some (ofDigits cs) else none

/-- Digits after an optional sign. -/
def readInt? : List Char → Option Int
  | '-' :: cs => (readNat? cs).map fun n => -(n : Int)
  | '+' :: cs => (readNat? cs).map fun n => (n : Int)
  | cs => (readNat? cs).map fun n => (n : Int)

/-- Digits after an optional plus sign. -/
def readUnsigned? : List Char → Option Nat
  | '+' :: cs => readNat? cs
  | cs => readNat? cs

def natDigits (n : Nat) : List Char := Nat.toDigits 10 n

def intDigits : Int → List Char
  | .ofNat n => natDigits n
  | .negSucc n => '-' :: natDigits (n + 1)

/-- `n` with zeros in front up to `width` digits. -/
def paddedDigits (width n : Nat) : List Char :=
  List.replicate (width - (natDigits n).length) '0' ++ natDigits n

def natText (n : Nat) : String := String.ofList (natDigits n)

def intText (n : Int) : String := String.ofList (intDigits n)

@[simp] theorem toList_natText (n : Nat) : (natText n).toList = natDigits n := by simp [natText]

@[simp] theorem toList_intText (n : Int) : (intText n).toList = intDigits n := by simp [intText]

end RecordFilter.Text
