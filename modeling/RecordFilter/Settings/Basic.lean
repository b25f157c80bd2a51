import RecordFilter.Settings.Layer
import RecordFilter.Calendar.Window
import RecordFilter.Calendar.Zone
import RecordFilter.Sql.Dialect
/-!
# Settings

The settings in effect: for each one the value that the invocation gives, or else the layers, or
else the default. They are checked as a whole, so that what is overridden is never at fault.
-/
namespace RecordFilter

structure Settings where
  timezone : String
  calendar : CalendarSettings
  dialect : Dialect
  limits : Limits
  deriving DecidableEq, Repr

/-- What an invocation itself gives. -/
structure Overrides where
  config : Option String := none
  timezone : Option String := none
  dialect : Option Dialect := none
  deriving DecidableEq, Repr

inductive SettingsFault where
  | notWeekday (name : String)
  | unknownDialect (name : String)
  | invalidTimezone (name : String)
  | fiscalMonthOutOfRange (month : Nat)
  | limitZero
  | fileNotFound (path : String)
  | unreadableFile (path cause : String)
  | malformedFile (path : String) (e : DocumentError)
  deriving DecidableEq, Repr

def SettingsFault.message : SettingsFault → String
  | .notWeekday name => "Configuration error: compiler.week_start '" ++ name ++ "' is not a weekday"
  | .unknownDialect name =>
    "Configuration error: relational.dialect: " ++ Dialect.unknownMessage name
  | .invalidTimezone name =>
    "Configuration error: '" ++ name ++ "' is not a valid IANA timezone"
  | .fiscalMonthOutOfRange month =>
    "Configuration error: compiler.fiscal_year_start_month must be 1-12, got " ++
      Text.natText month
  | .limitZero => "Configuration error: limits must be greater than 0"
  | .fileNotFound path => "Config file not found: " ++ path
  | .unreadableFile path cause => "Failed to read config file: " ++ path ++ ": " ++ cause
  | .malformedFile path e => "Failed to parse config file: " ++ path ++ ": " ++ e.message

namespace Settings

def default : Settings := ⟨"UTC", .default, .postgres, .default⟩

def weekStartOf (layer : Layer) : Except SettingsFault Weekday :=
  match layer.compiler.weekStart with
  | none => .ok default.calendar.weekStart
  | some name =>
    match Weekday.ofName? name with
    | some d => .ok d
    | none => .error (.notWeekday name)

def dialectOf (overrides : Overrides) (layer : Layer) : Except SettingsFault Dialect :=
  match overrides.dialect, layer.relational.dialect with
  | some d, _ => .ok d
  | none, none => .ok default.dialect
  | none, some name =>
    match Dialect.ofName? name with
    | some d => .ok d
    | none => .error (.unknownDialect name)

def limitsOf (layer : Layer) : Limits where
  maxBytes := layer.limits.maxBytes.getD default.limits.maxBytes
  maxConditions := layer.limits.maxConditions.getD default.limits.maxConditions
  maxDepth := layer.limits.maxDepth.getD default.limits.maxDepth

variable [ZoneSource]

/-- The first setting at fault. -/
def fault? (s : Settings) : Option SettingsFault :=
  if (Zone.ofName? s.timezone).isNone then some (.invalidTimezone s.timezone)
  else if s.calendar.fiscalMonth < 1 || 12 < s.calendar.fiscalMonth then
    some (.fiscalMonthOutOfRange s.calendar.fiscalMonth)
  else if s.limits.maxBytes = 0 || s.limits.maxConditions = 0 || s.limits.maxDepth = 0 then
    some .limitZero
  else none

/-- The settings in effect under a layer and what the invocation gives. -/
def ofLayer (overrides : Overrides) (layer : Layer) : Except SettingsFault Settings := do
  let timezone := (overrides.timezone.or layer.compiler.timezone).getD default.timezone
  let weekStart ← weekStartOf layer
  let dialect ← dialectOf overrides layer
  let fiscalMonth := layer.compiler.fiscalMonth.getD default.calendar.fiscalMonth
  let settings : Settings := ⟨timezone, ⟨weekStart, fiscalMonth⟩, dialect, limitsOf layer⟩
  match settings.fault? with
  | some fault => .error fault
  | none => .ok settings

end Settings
end RecordFilter
