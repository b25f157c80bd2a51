import RecordFilter.Command.Arguments
import RecordFilter.Command.EnvFile
import RecordFilter.Calendar.ZoneTable
import RecordFilter.Settings.Load
/-!
# Running the program

From the arguments to an exit code and the texts that are written, in any monad that gives access
to the surroundings.
-/
namespace RecordFilter

/-- What a run leaves behind. -/
structure RunResult where
  exitCode : Nat
  output : String
  errors : String
  deriving DecidableEq, Repr

structure Surroundings (m : Type → Type) where
  fileSystem : FileSystem m
  environment : EnvFile.Variables
  readInput : m String
  /-- The clock. -/
  present : m Instant

namespace Program

def name : String := "sieve"

def version : String := "0.4.2"

/-- The file of variables in the working directory. -/
def envFileName : String := ".env"

/-- The name that stands for standard input. -/
def inputName : String := "-"

def success (output : String) : RunResult := ⟨0, output, ""⟩

def failure (message : String) : RunResult := ⟨1, "", "\nError: " ++ message ++ "\n\n"⟩

/-- A command line without a meaning. -/
def usageError : RunResult :=
  ⟨2, "", "error: invalid arguments\n\nFor more information, try '--help'.\n"⟩

def helpText : String :=
  "Filter condition compiler\n\nUsage: sieve [OPTIONS] <COMMAND>\n\nCommands:\n" ++
    "  compile    Compile a filter and print the predicate with its relations\n" ++
    "  operators  List every operator key with its group\n"

/-- An operator and its group; groups start in the same column. -/
def operatorLine (o : Operator) : String :=
  let key := o.key
  key ++ String.ofList (List.replicate (24 - key.length) ' ') ++ " " ++ o.group.name ++ "\n"

def operatorLines : String := String.join (Operator.known.map operatorLine)

variable {m : Type → Type} [Monad m]

/-- A document of the invocation, or what kept it from being read. -/
def readDocument (s : Surroundings m) (path : String) : m (Except String String) := do
  if path = inputName then return .ok (← s.readInput)
  else
    let path := Path.expand s.fileSystem.home s.fileSystem.workingDirectory path
    match ← s.fileSystem.contentAt path with
    | .ok content => return .ok content
    | .error e => return .error ("Failed to read " ++ path ++ ": " ++ e.message)

/-- The filter document; standard input has nothing left once the schemas have been read from it. -/
def readFilter (s : Surroundings m) (args : CompileArgs) : m (Except String String) :=
  if args.schemas = inputName && args.filter = inputName then return .ok ""
  else readDocument s args.filter

def compile [ZoneSource] (s : Surroundings m) (overrides : Overrides) (args : CompileArgs) :
    m RunResult := do
  match (← Settings.load s.fileSystem overrides).result with
  | .error fault => return failure fault.message
  | .ok settings =>
    match ← readDocument s args.schemas with
    | .error message => return failure message
    | .ok schemas =>
      match ← readFilter s args with
      | .error message => return failure message
      | .ok filter =>
        let now ← match args.now with
          | some t => pure t
          | none => s.present
        let request : CompileRequest := ⟨schemas, filter, args.entity, args.adapter, now⟩
        match request.run settings with
        | .ok v => return success (v.prettyText ++ "\n")
        | .error e => return failure e.message

/-- The variables of a run: those that are set, and those of the file of variables. -/
def environment (s : Surroundings m) : m EnvFile.Variables := do
  match ← s.fileSystem.contentAt (Path.join s.fileSystem.workingDirectory envFileName) with
  | .ok content => return EnvFile.load s.environment content
  | .error _ => return s.environment

def run [ZoneSource] (s : Surroundings m) (args : List String) : m RunResult := do
  let vars ← environment s
  match Invocation.ofArgs? (fun name => Entries.lookup? name vars) args with
  | none => return usageError
  | some .version => return success (name ++ " " ++ version ++ "\n")
  | some .help => return success helpText
  | some .operators => return success operatorLines
  | some (.compile overrides args) => compile s overrides args

end Program
end RecordFilter
