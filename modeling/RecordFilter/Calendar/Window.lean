import RecordFilter.Calendar.Moment
/-!
# Windows of time

Spans of instants that contain their start and not their end, and the conventions by which weeks
and fiscal years begin.
-/
namespace RecordFilter

/-- A span of instants with its start, if it has one, and without its end. -/
inductive Window where
  | between (start finish : Instant)
  | since (start : Instant)
  | before (finish : Instant)
  deriving DecidableEq, Repr

namespace Window

def start? : Window → Option Instant
  | between start _ => some start
  | since start => some start
  | before _ => none

def finish? : Window → Option Instant
  | between _ finish => some finish
  | since _ => none
  | before finish => some finish

def Contains : Window → Instant → Prop
  | between start finish, t => start ≤ t ∧ t < finish
  | since start, t => start ≤ t
  | before finish, t => t < finish

instance (w : Window) (t : Instant) : Decidable (w.Contains t) := by
  cases w <;> unfold Contains <;> infer_instance

end Window

structure CalendarSettings where
  weekStart : Weekday
  /-- The month, counted from 1, with whose first day a fiscal year begins. -/
  fiscalMonth : Nat
  deriving DecidableEq, Repr

namespace CalendarSettings

def default : CalendarSettings := ⟨.monday, 4⟩

/-- The year in which the fiscal year of a date began. -/
def fiscalYearOf (s : CalendarSettings) (d : Date) : Int :=
  let c := d.civil
  if c.month < s.fiscalMonth then c.year - 1 else c.year

def fiscalYearStart? (s : CalendarSettings) (year : Int) : Option Date :=
  Date.ofCivil? year s.fiscalMonth 1

/-- The last date up to a given one that is the first day of a week. -/
def weekStart? (s : CalendarSettings) (d : Date) : Option Date :=
  d.addDays? (-(((d.weekday.index + 7 - s.weekStart.index) % 7 : Nat) : Int))

end CalendarSettings

end RecordFilter
