import RecordFilter.Calendar.Reading
import RecordFilter.Calendar.Window
import RecordFilter.Filter.Error
/-!
# What date operators describe

Every date operator describes a window of instants. Days, weeks, months and years follow the
calendar of a zone; a rolling span is measured from the present.

## Main definitions

* `DateContext` — when, where and by which calendar a filter is understood.
* `DateContext.currentDate` — the date of the present.
* `DateContext.window` — the window that a date operator describes.
-/
namespace RecordFilter

/-- When, where and by which calendar a filter is understood. -/
structure DateContext where
  now : Instant
  zone : Zone
  settings : CalendarSettings
  deriving Repr

namespace DateContext

/-- Calendar dates are compared in UTC, instants by the clocks of the zone. -/
def forFormat (c : DateContext) : DateFormat → DateContext
  | .date => { c with zone := .utc }
  | .datetime => c

/-- The date that the clocks show, as if there were dates beyond the calendar. -/
def today (c : DateContext) : Date := c.zone.localDate c.now

/-- The date that the clocks show, which has to be one of the calendar. -/
def currentDate (c : DateContext) : Except ValueError Date :=
  if c.today.inCalendar then .ok c.today else .error .noToday

def midnight (c : DateContext) (d : Date) : Except ValueError Instant :=
  match c.zone.midnight d with
  | .ok t => .ok t
  | .error why => .error (.outOfRange why)

/-- From the start of one date to the start of another. -/
def dates (c : DateContext) (first last : Date) : Except ValueError Window := do
  return .between (← c.midnight first) (← c.midnight last)

/-- From so many days after a date to so many days after it. -/
def days (c : DateContext) (d : Date) (first last : Int) : Except ValueError Window := do
  let start ← c.midnight (← ValueError.inRange (d.addDays? first))
  let finish ← c.midnight (← ValueError.inRange (d.addDays? last))
  return .between start finish

def fiscalYear (c : DateContext) (year : Int) : Except ValueError Window := do
  let first ← ValueError.inRange (c.settings.fiscalYearStart? year)
  let last ← ValueError.inRange (c.settings.fiscalYearStart? (year + 1))
  c.dates first last

/-- The period of a kind that contains a date, or one so many places later. -/
def period (c : DateContext) (today : Date) (kind : Period) (offset : Int) :
    Except ValueError Window :=
  match kind with
  | .week => do
    let thisWeek ← ValueError.inRange (c.settings.weekStart? today)
    let first ← ValueError.inRange (thisWeek.addDays? (offset * 7))
    c.dates first (← ValueError.inRange (first.addDays? 7))
  | .month => do
    let thisMonth ← ValueError.inRange (Date.ofCivil? today.civil.year today.civil.month 1)
    let first ← ValueError.inRange (thisMonth.addMonths? offset)
    c.dates first (← ValueError.inRange (first.addMonths? 1))
  | .year => do
    let year := today.civil.year + offset
    let first ← ValueError.inRange (Date.ofCivil? year 1 1)
    c.dates first (← ValueError.inRange (Date.ofCivil? (year + 1) 1 1))
  | .fiscalYear => c.fiscalYear (c.settings.fiscalYearOf today + offset)

/-- The day that a value names. -/
def dayOf (c : DateContext) : Json → Except ValueError Date
  | .string s =>
    match c.zone.readDay s with
    | some d => .ok d
    | none => .error (.notDate s .unreadable)
  | _ => .error .notDayText

/-- A count of units: a number or the digits of one, within 32 bits. -/
def countOf (v : Json) : Except ValueError Nat := do
  let count :=
    match v with
    | .number n => n.toNat64?
    | .string s => (Text.readUnsigned? (Text.trimChars s.toList)).filter fitsNat64
    | _ => none
  match count with
  | some n => ValueError.inRange (if fitsNat32 n then some n else none)
  | none => .error (.notCount v)

/-- A year: a number or the digits of one, within 32 bits. -/
def yearOf (v : Json) : Except ValueError Int := do
  let year :=
    match v with
    | .number n => n.toInt64?
    | .string s => (Text.readInt? (Text.trimChars s.toList)).filter fitsInt64
    | _ => none
  match year with
  | some z => ValueError.inRange (if fitsInt32 z then some z else none)
  | none => .error (.notYear v)

/-- The instant so many units after the present; before it if the count is negative. -/
def moved? (c : DateContext) (unit : TimeUnit) (count : Int) : Option Instant :=
  match unit with
  | .hours => c.now.addSeconds? (count * 3600)
  | .days => c.now.addSeconds? (count * 86400)
  | .weeks => c.now.addSeconds? (count * 604800)
  | .months => c.now.addMonths? count
  | .years => c.now.addMonths? (count * 12)

def rolling (c : DateContext) (direction : Direction) (unit : TimeUnit) (v : Json) :
    Except ValueError Window := do
  let count ← countOf v
  match direction with
  | .next => return .between c.now (← ValueError.inRange (c.moved? unit count))
  | .last => return .between (← ValueError.inRange (c.moved? unit (-count))) c.now
  | .olderThan => return .before (← ValueError.inRange (c.moved? unit (-count)))

/-- The window that a date operator describes on a date. -/
def windowOn (c : DateContext) (today : Date) (o : DateOperator) (v : Json) :
    Except ValueError Window :=
  match o with
  | .day .on => do c.days (← c.dayOf v) 0 1
  | .day .onOrAfter => do return .since (← c.midnight (← c.dayOf v))
  | .day .onOrBefore => do
    let d ← c.dayOf v
    return .before (← c.midnight (← ValueError.inRange (d.addDays? 1)))
  | .calendar .today => c.days today 0 1
  | .calendar .yesterday => c.days today (-1) 0
  | .calendar .tomorrow => c.days today 1 2
  | .calendar .nextSevenDays => c.days today 0 7
  | .calendar .lastSevenDays => c.days today (-6) 1
  | .calendar (.period shift kind) => c.period today kind shift.offset
  | .calendar .inFiscalYear => do c.fiscalYear (← yearOf v)
  | .rolling direction unit => c.rolling direction unit v

/-- The window that a date operator describes. The date of the present is looked up first, whatever
the operator. -/
def window (c : DateContext) (o : DateOperator) (v : Json) : Except ValueError Window := do
  c.windowOn (← c.currentDate) o v

/-- The window of an operator; only date operators have one. -/
def windowOf (c : DateContext) (o : Operator) (v : Json) : Except ValueError Window :=
  match o with
  | .date d => c.window d v
  | _ => do
    let _ ← c.currentDate
    .error .noWindow

end DateContext
end RecordFilter
