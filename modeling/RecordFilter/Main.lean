import RecordFilter.Command.Run
import Std.Time.DateTime.Timestamp
/-!
# The program

The outermost layer: files, streams, variables and the clock of the machine.
-/
namespace RecordFilter

/-- The number of a system error; some calls give it negated. -/
def systemCode (n : UInt32) : UInt32 := min n (0 - n)

def failureOf : IO.Error → FileFailure
  | .noFileOrDirectory _ _ _ => .missing
  | .permissionDenied _ _ _ => .denied
  | .inappropriateType _ n text =>
    if systemCode n = 20 then .notDirectory
    else if systemCode n = 21 then .isDirectory
    else .other text
  | .invalidArgument _ n text => if systemCode n = 36 then .nameTooLong else .other text
  | e => .other (toString e)

def readMachineFile (path : String) : IO (Except FileFailure String) := do
  try
    return .ok (← IO.FS.readFile path)
  catch e =>
    return .error (failureOf e)

def machinePathExists (path : String) : IO Bool := do
  match ← readMachineFile path with
  | .error .missing => return false
  | .error .notDirectory => return false
  | .error .nameTooLong => return false
  | _ => return true

def machineFiles : IO (FileSystem IO) := do
  return {
    home := ← IO.getEnv "HOME"
    workingDirectory := toString (← IO.currentDir)
    pathExists := machinePathExists
    contentAt := readMachineFile }

/-- The file in which the system lists the variables of the run. -/
def variablesFile : String := "/proc/self/environ"

def splitVariable? (entry : String) : Option (String × String) :=
  match entry.splitOn "=" with
  | name :: value :: rest => some (name, "=".intercalate (value :: rest))
  | _ => none

/-- The variables that the program knows. -/
def knownVariables : IO EnvFile.Variables := do
  let names := OptionName.shared.filterMap OptionName.environmentName?
  let pairs ← names.mapM fun name => do return (name, ← IO.getEnv name)
  return pairs.filterMap fun (name, value) => value.map (name, ·)

/-- All variables that are set, or those that the program knows where there is no list. -/
def machineVariables : IO EnvFile.Variables := do
  match ← readMachineFile variablesFile with
  | .ok entries => return (entries.splitOn "\x00").filterMap splitVariable?
  | .error _ => knownVariables

def now : IO Instant := do
  let nanos := (← Std.Time.Timestamp.now).toNanosecondsSinceUnixEpoch.val
  return ⟨nanos / Moment.nanosPerSecond, (nanos % Moment.nanosPerSecond).toNat⟩

def machine : IO (Surroundings IO) := do
  return {
    fileSystem := ← machineFiles
    environment := ← machineVariables
    readInput := do (← IO.getStdin).readToEnd
    present := now }

end RecordFilter

def main (args : List String) : IO UInt32 := do
  let result ← RecordFilter.Program.run (← RecordFilter.machine) args
  IO.print result.output
  IO.eprint result.errors
  return result.exitCode.toUInt32
