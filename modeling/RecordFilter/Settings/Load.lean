import RecordFilter.Settings.Basic
import RecordFilter.Settings.System
import RecordFilter.Plan.Log
/-!
# Loading settings

Settings come from the file of the profile, from the file that the invocation names or else the one
in the working directory, and from the invocation itself, each over the one before. A file that the
invocation names has to exist.
-/
namespace RecordFilter.Settings

/-- The name of settings files. -/
def fileName : String := "sieve.json"

/-- The directory of settings below the home directory. -/
def profileDirectory : String := ".sieve"

/-- A result with what was reported on the way. -/
structure Loaded (α : Type) where
  entries : List LogEntry
  result : Except SettingsFault α

def Loaded.fail {α : Type} (fault : SettingsFault) : Loaded α := ⟨[], .error fault⟩

/-- A result used to load another. -/
def Loaded.andThen {α β : Type} (a : Loaded α) (f : α → Loaded β) : Loaded β :=
  match a.result with
  | .error fault => ⟨a.entries, .error fault⟩
  | .ok x => ⟨a.entries ++ (f x).entries, (f x).result⟩

/-- The layer in a file that is shown under a name. -/
def layerOfFile (shown : String) : Except FileFailure String → Loaded Layer
  | .error e => .fail (.unreadableFile shown e.message)
  | .ok content =>
    match Layer.read content with
    | .error e => .fail (.malformedFile shown e)
    | .ok (layer, []) => ⟨[], .ok layer⟩
    | .ok (layer, unknown) => ⟨[.unknownFields unknown], .ok layer⟩

variable {m : Type → Type} [Monad m]

/-- The layer of a file, or the empty one if there is no such file. -/
def optionalLayer (fs : FileSystem m) (shown path : String) : m (Loaded Layer) := do
  if ← fs.pathExists path then return layerOfFile shown (← fs.contentAt path)
  else return ⟨[], .ok .empty⟩

def profileLayer (fs : FileSystem m) : m (Loaded Layer) :=
  match fs.home with
  | none => return ⟨[], .ok .empty⟩
  | some home =>
    let path := Path.join (Path.join home profileDirectory) fileName
    optionalLayer fs path path

def overlayLayer (fs : FileSystem m) (config : Option String) : m (Loaded Layer) :=
  match config with
  | none => optionalLayer fs fileName (Path.join fs.workingDirectory fileName)
  | some config => do
    let path := Path.expand fs.home fs.workingDirectory config
    if ← fs.pathExists path then return layerOfFile path (← fs.contentAt path)
    else return .fail (.fileNotFound path)

/-- The settings in effect for an invocation. -/
def load [ZoneSource] (fs : FileSystem m) (overrides : Overrides) : m (Loaded Settings) := do
  let profile ← profileLayer fs
  let overlay ← overlayLayer fs overrides.config
  return profile.andThen fun lower =>
    overlay.andThen fun upper => ⟨[], ofLayer overrides (upper.onto lower)⟩

end RecordFilter.Settings
