import RecordFilter.Calendar.Moment
import RecordFilter.Text.Blank
/-!
# Time zones

A zone is the list of its changes of offset, oldest first. Seen from UTC every instant has one
offset. Seen from the wall clock a local time may be shown twice, when clocks are set back, or not
at all, when they are set ahead. Which zones have a name is left open.

## Main definitions

* `ZoneSource`, `Zone.ofName?` — where zones are found by their names.
* `Zone.localTime`, `Zone.localDate` — what the clocks of a zone show at an instant.
* `Zone.instant?` — the first instant at which the clocks show a local time.
* `Zone.resolve` — the same, where a local time that is skipped stands for the next one shown,
  looked for in steps of a quarter of an hour.
-/
namespace RecordFilter

/-- From a second on, clocks are that many seconds ahead of UTC. -/
structure Change where
  second : Int
  offset : Int
  deriving DecidableEq, Repr

structure Zone where
  name : String
  /-- Seconds ahead of UTC before the first change. -/
  initialOffset : Int
  changes : List Change
  deriving DecidableEq, Repr

/-- Where zones are found by their names. -/
class ZoneSource where
  named? : String → Option Zone

/-- Why there is no instant. -/
inductive NoInstant where
  /-- The text is not that of a date or a time. -/
  | unreadable
  /-- The search left the calendar. -/
  | beyondCalendar
  /-- Clocks of the zone skip the local time and what follows it. -/
  | skipped (time : LocalTime) (zone : String)
  deriving DecidableEq, Repr

namespace Zone

/-- The zone of a name, which may stand between blanks. -/
def ofName? [ZoneSource] (s : String) : Option Zone := ZoneSource.named? (Text.trim s)

def utc : Zone := ⟨"UTC", 0, []⟩

/-- The offset at a second, given the offset before the changes that follow. -/
def offsetFrom (offset : Int) : List Change → Int → Int
  | [], _ => offset
  | change :: rest, second =>
    if second < change.second then offset else offsetFrom change.offset rest second

def offsetAt (z : Zone) (second : Int) : Int := offsetFrom z.initialOffset z.changes second

def localTime (z : Zone) (t : Instant) : LocalTime := ⟨t.second + z.offsetAt t.second, t.nano⟩

/-- The date that the calendars of the zone show. -/
def localDate (z : Zone) (t : Instant) : Date := (z.localTime t).date

/-- The first second at which the clocks are a given local second, in the span that starts at
`start` with `offset` and in those after it. -/
def firstSecond? (start : Option Int) (offset : Int) : List Change → Int → Option Int
  | [], clock =>
    if start.all (· ≤ clock - offset) then some (clock - offset) else none
  | change :: rest, clock =>
    if start.all (· ≤ clock - offset) && clock - offset < change.second then some (clock - offset)
    else firstSecond? (some change.second) change.offset rest clock

def instant? (z : Zone) (time : LocalTime) : Option Instant :=
  ((firstSecond? none z.initialOffset z.changes time.second).map fun s =>
    (⟨s, time.nano⟩ : Moment)).bind Moment.checked

/-- The number of local times that are tried. -/
def searchSteps : Nat := 16

/-- A quarter of an hour. -/
def stepSeconds : Int := 900

/-- Tries a local time and those after it; `none` within the result when all are skipped. -/
def search (z : Zone) : Nat → LocalTime → Except NoInstant (Option Instant)
  | 0, _ => .ok none
  | n + 1, time =>
    match z.instant? time with
    | some t => .ok (some t)
    | none =>
      match time.addSeconds? stepSeconds with
      | some later => search z n later
      | none => .error .beyondCalendar

def resolve (z : Zone) (time : LocalTime) : Except NoInstant Instant :=
  match z.search searchSteps time with
  | .ok (some t) => .ok t
  | .ok none => .error (.skipped time z.name)
  | .error e => .error e

/-- The start of a date on the clocks of the zone. -/
def midnight (z : Zone) (d : Date) : Except NoInstant Instant := z.resolve (.midnight d)

@[simp] theorem offsetAt_utc (s : Int) : utc.offsetAt s = 0 := rfl

@[simp] theorem localTime_utc (t : Instant) : utc.localTime t = t := by
  simp [localTime]

@[simp] theorem localDate_utc (t : Instant) : utc.localDate t = t.date := by
  simp [localDate]

theorem instant?_utc (t : LocalTime) : utc.instant? t = t.checked := by
  simp [instant?, utc, firstSecond?]

end Zone
end RecordFilter
