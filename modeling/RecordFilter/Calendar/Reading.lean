import RecordFilter.Calendar.Zone
import RecordFilter.Number.Words
import RecordFilter.Text.Blank
/-!
# Reading dates and times

Three forms are read: an instant with its offset, strict in every place; a local time without an
offset; and a plain date. In the last two, blanks may stand before a number and numbers may be
short.

## Main definitions

* `Moment.ofText?` — an instant with its offset.
* `Zone.readInstant` — an instant in any of the forms, local ones by the clocks of the zone.
* `Zone.readDay` — the date that a text in any of the forms names in the zone.
* `Date.ofText?` — a plain date.
-/
namespace RecordFilter

namespace TimeText

/-! ## Parts -/

def expect (c : Char) : List Char → Option (List Char)
  | d :: rest => if d = c then some rest else none
  | [] => none

/-- Exactly that many digits. -/
def fixed? (width : Nat) (cs : List Char) : Option (Nat × List Char) :=
  let digits := cs.take width
  if digits.length = width && digits.all Char.isDigit then
    some (Text.ofDigits digits, cs.drop width)
  else none

/-- At least one digit and at most that many. -/
def upTo? (width : Nat) (cs : List Char) : Option (Nat × List Char) :=
  let digits := (cs.takeWhile Char.isDigit).take width
  if digits = [] then none else some (Text.ofDigits digits, cs.drop digits.length)

/-- One or two digits after blanks. -/
def short? (cs : List Char) : Option (Nat × List Char) := upTo? 2 (Text.skipBlanks cs)

/-- A year after blanks: up to four digits, or any number of them after a sign. -/
def year? (cs : List Char) : Option (Int × List Char) :=
  match Text.skipBlanks cs with
  | '-' :: cs => (upTo? cs.length cs).map fun (n, rest) => (-(n : Int), rest)
  | '+' :: cs => (upTo? cs.length cs).map fun (n, rest) => ((n : Int), rest)
  | cs => (upTo? 4 cs).map fun (n, rest) => ((n : Int), rest)

/-- Nanoseconds by the digits behind the point; those after the ninth do not count. -/
def nanoOfDigits (digits : List Char) : Nat :=
  Text.ofDigits (digits.take 9) * tenPow (9 - digits.length)

/-- Nothing, or a point and digits. -/
def fraction? : List Char → Option (Nat × List Char)
  | '.' :: cs =>
    match Text.spanDigits cs with
    | ([], _) => none
    | (digits, rest) => some (nanoOfDigits digits, rest)
  | cs => some (0, cs)

/-- A time of day; the second may be 60. -/
structure Clock where
  hour : Nat
  minute : Nat
  second : Nat
  nano : Nat

def Clock.isValid (c : Clock) : Bool := c.hour < 24 && c.minute < 60 && c.second ≤ 60

/-- The local time of a date and a time of day. -/
def localTime (d : Date) (c : Clock) : LocalTime :=
  let start := d.day * Moment.secondsPerDay + c.hour * 3600 + c.minute * 60
  if c.second = 60 then ⟨start + 59, c.nano + Moment.nanosPerSecond⟩
  else ⟨start + c.second, c.nano⟩

def localTime? (d : Option Date) (c : Clock) : Option LocalTime :=
  if c.isValid then d.map (localTime · c) else none

/-! ## Instants with an offset -/

def isSeparator (c : Char) : Bool := c = 'T' || c = 't' || c = ' '

/-- The offset in seconds that follows a sign. -/
def offsetAfter? (cs : List Char) : Option Int := do
  let (hour, cs) ← fixed? 2 cs
  let cs ← expect ':' cs
  let (minute, cs) ← fixed? 2 cs
  if cs = [] && hour < 24 && minute < 60 then some (hour * 3600 + minute * 60) else none

/-- The offset at the end of a text: `Z`, or a sign with hours and minutes. -/
def offset? : List Char → Option Int
  | ['Z'] => some 0
  | ['z'] => some 0
  | '+' :: cs => offsetAfter? cs
  | '-' :: cs => (offsetAfter? cs).map (-·)
  | '−' :: cs => (offsetAfter? cs).map (-·)
  | _ => none

def strictTime? (cs : List Char) : Option (LocalTime × List Char) := do
  let (year, cs) ← fixed? 4 cs
  let cs ← expect '-' cs
  let (month, cs) ← fixed? 2 cs
  let cs ← expect '-' cs
  let (day, cs) ← fixed? 2 cs
  let cs ← match cs with
    | c :: cs => if isSeparator c then some cs else none
    | [] => none
  let (hour, cs) ← fixed? 2 cs
  let cs ← expect ':' cs
  let (minute, cs) ← fixed? 2 cs
  let cs ← expect ':' cs
  let (second, cs) ← fixed? 2 cs
  let (nano, cs) ← fraction? cs
  let time ← localTime? (Date.ofCivil? year month day) ⟨hour, minute, second, nano⟩
  return (time, cs)

def instant? (cs : List Char) : Option Instant := do
  let (time, cs) ← strictTime? cs
  let offset ← offset? cs
  return ⟨time.second - offset, time.nano⟩

/-! ## Local forms -/

/-- A date at the front of a text. -/
def date? (cs : List Char) : Option (Option Date × List Char) := do
  let (year, cs) ← year? cs
  let cs ← expect '-' cs
  let (month, cs) ← short? cs
  let cs ← expect '-' cs
  let (day, cs) ← short? cs
  return (Date.ofCivil? year month day, cs)

def plainDate? (cs : List Char) : Option Date :=
  match date? cs with
  | some (d, []) => d
  | _ => none

def clock? (cs : List Char) : Option Clock := do
  let (hour, cs) ← short? cs
  let cs ← expect ':' cs
  let (minute, cs) ← short? cs
  let cs ← expect ':' cs
  let (second, cs) ← short? cs
  let (nano, cs) ← fraction? cs
  if cs = [] then some ⟨hour, minute, second, nano⟩ else none

/-- A date and a time of day with a `T` or blanks between them, or with nothing. -/
def plainTime? (cs : List Char) : Option LocalTime := do
  let (date, cs) ← date? cs
  let clock ← match cs with
    | 'T' :: cs => clock? cs
    | cs => clock? (Text.skipBlanks cs)
  localTime? date clock

end TimeText

/-- An instant with its offset. -/
def Moment.ofText? (s : String) : Option Instant := TimeText.instant? s.toList

/-- A local time without an offset. -/
def Moment.ofLocalText? (s : String) : Option LocalTime := TimeText.plainTime? s.toList

/-- A plain date, which may stand between blanks. -/
def Date.ofText? (s : String) : Option Date := TimeText.plainDate? (Text.trimChars s.toList)

namespace Zone

/-- The instant of a text between blanks: with its offset, or else by the clocks of the zone, a
plain date standing for its start. -/
def readInstantChars (z : Zone) (cs : List Char) : Except NoInstant Instant :=
  match TimeText.instant? cs with
  | some t => .ok t
  | none =>
    match TimeText.plainTime? cs with
    | some time => z.resolve time
    | none =>
      match TimeText.plainDate? cs with
      | some d => z.midnight d
      | none => .error .unreadable

def readInstant (z : Zone) (s : String) : Except NoInstant Instant :=
  z.readInstantChars (Text.trimChars s.toList)

def readDayChars (z : Zone) (cs : List Char) : Option Date :=
  match TimeText.plainDate? cs with
  | some d => some d
  | none =>
    match TimeText.instant? cs with
    | some t => some (z.localDate t)
    | none => (TimeText.plainTime? cs).map Moment.date

/-- The date of a text between blanks, in the calendar of the zone where an offset is given. -/
def readDay (z : Zone) (s : String) : Option Date := z.readDayChars (Text.trimChars s.toList)

end Zone
end RecordFilter
