import RecordFilter.Text.Digits
import RecordFilter.Text.LowerCase
/-!
# Calendar dates

A date is the number of days since the first of January 1970 in the Gregorian calendar, extended in
both directions. The calendar has a first and a last date; functions that may leave it return
`none` there.

## Main definitions

* `Date.civil`, `Date.ofCivil?` — a date by year, month and day of the month.
* `Date.addDays?`, `Date.addMonths?` — other dates of the calendar; a month that lacks the day of
  the month gives its last day.
* `Date.weekday`, `Date.text`.
-/
namespace RecordFilter

inductive Weekday where
  | monday | tuesday | wednesday | thursday | friday | saturday | sunday
  deriving DecidableEq, Repr

namespace Weekday

def all : List Weekday := [monday, tuesday, wednesday, thursday, friday, saturday, sunday]

/-- Days since Monday. -/
def index : Weekday → Nat
  | monday => 0
  | tuesday => 1
  | wednesday => 2
  | thursday => 3
  | friday => 4
  | saturday => 5
  | sunday => 6

def ofIndex (n : Nat) : Weekday := all.getD (n % 7) monday

def name : Weekday → String
  | monday => "monday"
  | tuesday => "tuesday"
  | wednesday => "wednesday"
  | thursday => "thursday"
  | friday => "friday"
  | saturday => "saturday"
  | sunday => "sunday"

/-- The first three letters. -/
def shortName : Weekday → String
  | monday => "Mon"
  | tuesday => "Tue"
  | wednesday => "Wed"
  | thursday => "Thu"
  | friday => "Fri"
  | saturday => "Sat"
  | sunday => "Sun"

/-- A weekday by its name or short name, in any letter case. -/
def ofName? (s : String) : Option Weekday :=
  let s := Text.lowerAscii s
  all.find? fun d => s = d.name || s = Text.lowerAscii d.shortName

@[simp] theorem ofIndex_index (d : Weekday) : ofIndex d.index = d := by cases d <;> rfl

end Weekday

/-- A date by its place in the calendar. -/
structure Civil where
  year : Int
  month : Nat
  day : Nat
  deriving DecidableEq, Repr

namespace Civil

def isLeapYear (year : Int) : Bool := year % 4 = 0 && (year % 100 ≠ 0 || year % 400 = 0)

def daysInMonth (year : Int) : Nat → Nat
  | 2 => if isLeapYear year then 29 else 28
  | 4 => 30
  | 6 => 30
  | 9 => 30
  | 11 => 30
  | _ => 31

/-- Whether the month and the day exist. -/
def isValid (c : Civil) : Bool :=
  1 ≤ c.month && c.month ≤ 12 && 1 ≤ c.day && c.day ≤ daysInMonth c.year c.month

end Civil

/-- Days since the first of January 1970. -/
structure Date where
  day : Int
  deriving DecidableEq, Repr

namespace Date

instance : LE Date := ⟨fun a b => a.day ≤ b.day⟩

instance : LT Date := ⟨fun a b => a.day < b.day⟩

instance (a b : Date) : Decidable (a ≤ b) := inferInstanceAs (Decidable (a.day ≤ b.day))

instance (a b : Date) : Decidable (a < b) := inferInstanceAs (Decidable (a.day < b.day))

theorem le_iff (a b : Date) : a ≤ b ↔ a.day ≤ b.day := Iff.rfl

theorem lt_iff (a b : Date) : a < b ↔ a.day < b.day := Iff.rfl

/-- The day number of a valid date. Years are counted from March, so that the leap day comes last,
in cycles of 400 years or 146097 days. -/
def dayNumber (c : Civil) : Int :=
  let year := if c.month ≤ 2 then c.year - 1 else c.year
  let yearOfCycle := year % 400
  let month : Int := if c.month ≤ 2 then c.month + 9 else c.month - 3
  let dayOfYear := (153 * month + 2) / 5 + c.day - 1
  let dayOfCycle := yearOfCycle * 365 + yearOfCycle / 4 - yearOfCycle / 100 + dayOfYear
  year / 400 * 146097 + dayOfCycle - 719468

def civil (d : Date) : Civil :=
  let shifted := d.day + 719468
  let dayOfCycle := shifted % 146097
  let yearOfCycle :=
    (dayOfCycle - dayOfCycle / 1460 + dayOfCycle / 36524 - dayOfCycle / 146096) / 365
  let dayOfYear := dayOfCycle - (365 * yearOfCycle + yearOfCycle / 4 - yearOfCycle / 100)
  let month := (5 * dayOfYear + 2) / 153
  let day := dayOfYear - (153 * month + 2) / 5 + 1
  let year := yearOfCycle + shifted / 146097 * 400
  if month < 10 then ⟨year, (month + 3).toNat, day.toNat⟩
  else ⟨year + 1, (month - 9).toNat, day.toNat⟩

def firstYear : Int := -262143

def lastYear : Int := 262142

/-- The first of January of the first year. -/
def firstDay : Int := -96465292

/-- The last of December of the last year. -/
def lastDay : Int := 95026236

/-- Whether the calendar reaches the date. -/
def inCalendar (d : Date) : Bool := firstDay ≤ d.day && d.day ≤ lastDay

def checked (d : Date) : Option Date := if d.inCalendar then some d else none

/-- The date of a year, month and day that exist in the calendar. -/
def ofCivil? (year : Int) (month day : Nat) : Option Date :=
  let c : Civil := ⟨year, month, day⟩
  if firstYear ≤ year && year ≤ lastYear && c.isValid then some ⟨dayNumber c⟩ else none

def addDays? (d : Date) (n : Int) : Option Date := checked ⟨d.day + n⟩

def succ? (d : Date) : Option Date := d.addDays? 1

/-- The same day of another month, or the last day of a shorter one. -/
def addMonths? (d : Date) (n : Int) : Option Date :=
  let c := d.civil
  let months := c.year * 12 + (c.month - 1) + n
  let year := months / 12
  let month := (months % 12 + 1).toNat
  ofCivil? year month (min c.day (Civil.daysInMonth year month))

def weekday (d : Date) : Weekday := Weekday.ofIndex ((d.day + 3) % 7).toNat

/-- Four digits at least; years outside 0 to 9999 have a sign. -/
def yearDigits (year : Int) : List Char :=
  let digits := Text.paddedDigits 4 year.natAbs
  if year < 0 then '-' :: digits else if 9999 < year then '+' :: digits else digits

def digits (d : Date) : List Char :=
  let c := d.civil
  yearDigits c.year ++ '-' :: Text.paddedDigits 2 c.month ++ '-' :: Text.paddedDigits 2 c.day

/-- Year, month and day, with hyphens between. -/
def text (d : Date) : String := String.ofList d.digits

example : civil ⟨0⟩ = ⟨1970, 1, 1⟩ := by decide

example : ofCivil? 2000 2 29 = some ⟨11016⟩ := by decide

example : ofCivil? firstYear 1 1 = some ⟨firstDay⟩ := by decide

example : ofCivil? lastYear 12 31 = some ⟨lastDay⟩ := by decide

end Date
end RecordFilter
