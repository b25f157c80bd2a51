import RecordFilter.Calendar.Date
/-!
# Moments

A second and a count of nanoseconds within it, on the time line of UTC or on a wall clock. A leap
second continues the second before it: its nanoseconds run from `10 ^ 9`. Moments are ordered by
the second, then by the nanoseconds.

## Main definitions

* `Moment.addSeconds?`, `Moment.addMonths?`, `Moment.millisecondBefore?` — other moments of the
  calendar. Whole seconds lead out of a leap second.
* `Moment.text`, `Moment.millisText`, `Moment.clockText` — the three texts of a moment.
-/
namespace RecordFilter

/-- Seconds are counted from the start of 1970. -/
structure Moment where
  second : Int
  nano : Nat
  deriving DecidableEq, Repr

/-- A moment on the time line of UTC. -/
abbrev Instant := Moment

/-- What a wall clock shows. -/
abbrev LocalTime := Moment

namespace Moment

instance : LT Moment := ⟨fun a b => a.second < b.second ∨ (a.second = b.second ∧ a.nano < b.nano)⟩

instance : LE Moment := ⟨fun a b => a.second < b.second ∨ (a.second = b.second ∧ a.nano ≤ b.nano)⟩

instance (a b : Moment) : Decidable (a < b) :=
  inferInstanceAs (Decidable (a.second < b.second ∨ (a.second = b.second ∧ a.nano < b.nano)))

instance (a b : Moment) : Decidable (a ≤ b) :=
  inferInstanceAs (Decidable (a.second < b.second ∨ (a.second = b.second ∧ a.nano ≤ b.nano)))

theorem lt_iff (a b : Moment) :
    a < b ↔ a.second < b.second ∨ (a.second = b.second ∧ a.nano < b.nano) := Iff.rfl

theorem le_iff (a b : Moment) :
    a ≤ b ↔ a.second < b.second ∨ (a.second = b.second ∧ a.nano ≤ b.nano) := Iff.rfl

theorem not_lt (a b : Moment) : ¬ a < b ↔ b ≤ a := by
  simp only [lt_iff, le_iff]
  omega

def secondsPerDay : Int := 86400

def nanosPerSecond : Nat := 1000000000

def isLeapSecond (t : Moment) : Bool := nanosPerSecond ≤ t.nano

def date (t : Moment) : Date := ⟨t.second / secondsPerDay⟩

def secondOfDay (t : Moment) : Nat := (t.second % secondsPerDay).toNat

/-- The start of a day. -/
def midnight (d : Date) : Moment := ⟨d.day * secondsPerDay, 0⟩

def inCalendar (t : Moment) : Bool := t.date.inCalendar

def checked (t : Moment) : Option Moment := if t.inCalendar then some t else none

@[simp] theorem date_midnight (d : Date) : (midnight d).date = d := by
  simp [midnight, date, secondsPerDay]

/-! ## Moving -/

/-- A step back leads from a leap second to the end of it, a step ahead to the second before it. -/
def addSeconds (t : Moment) (n : Int) : Moment :=
  if t.isLeapSecond then
    if 0 < n then ⟨t.second + n, t.nano - nanosPerSecond⟩
    else if n < 0 then ⟨t.second + 1 + n, t.nano - nanosPerSecond⟩
    else t
  else ⟨t.second + n, t.nano⟩

def addSeconds? (t : Moment) (n : Int) : Option Moment := (t.addSeconds n).checked

def millisecondBefore (t : Moment) : Moment :=
  if 1000000 ≤ t.nano then ⟨t.second, t.nano - 1000000⟩
  else ⟨t.second - 1, t.nano + 999000000⟩

def millisecondBefore? (t : Moment) : Option Moment := t.millisecondBefore.checked

/-- The same time of day in another month. -/
def addMonths? (t : Moment) (n : Int) : Option Moment :=
  if n = 0 then some t
  else (t.date.addMonths? n).map fun d => ⟨d.day * secondsPerDay + t.second % secondsPerDay, t.nano⟩

/-- The first date whose start in UTC is at or after an instant. -/
def ceilDate? (t : Moment) : Option Date :=
  if t.secondOfDay = 0 && t.nano = 0 then some t.date else t.date.succ?

/-! ## Text -/

/-- The nanoseconds of the second that is shown. -/
def shownNano (t : Moment) : Nat :=
  if t.isLeapSecond then t.nano - nanosPerSecond else t.nano

/-- Hours, minutes and seconds; a leap second shows as the second after. -/
def clockDigits (t : Moment) : List Char :=
  let s := t.secondOfDay
  let second := s % 60 + if t.isLeapSecond then 1 else 0
  Text.paddedDigits 2 (s / 3600) ++ ':' :: Text.paddedDigits 2 (s / 60 % 60) ++
    ':' :: Text.paddedDigits 2 second

/-- A point and 3, 6 or 9 digits, the fewest that are exact; nothing for a whole second. -/
def fractionDigits (nano : Nat) : List Char :=
  if nano = 0 then []
  else if nano % 1000000 = 0 then '.' :: Text.paddedDigits 3 (nano / 1000000)
  else if nano % 1000 = 0 then '.' :: Text.paddedDigits 6 (nano / 1000)
  else '.' :: Text.paddedDigits 9 nano

def digits (t : Moment) : List Char :=
  t.date.digits ++ 'T' :: t.clockDigits ++ fractionDigits t.shownNano ++ ['Z']

/-- The text of an instant, exact to the nanosecond. -/
def text (t : Instant) : String := String.ofList t.digits

def millisDigits (t : Moment) : List Char :=
  let millis := Text.paddedDigits 3 (t.shownNano / 1000000)
  t.date.digits ++ 'T' :: t.clockDigits ++ '.' :: millis ++ ['Z']

/-- The text of an instant with exactly three digits of the fraction, the rest cut off. -/
def millisText (t : Instant) : String := String.ofList t.millisDigits

/-- What a wall clock shows: date and time with a blank between. -/
def clockText (t : LocalTime) : String :=
  String.ofList (t.date.digits ++ ' ' :: t.clockDigits ++ fractionDigits t.shownNano)

example : millisText ⟨1736971200, 1234567⟩ = "2025-01-15T20:00:00.001Z" := by decide

end Moment
end RecordFilter
