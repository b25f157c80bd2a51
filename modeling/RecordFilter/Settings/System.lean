import RecordFilter.Settings.Path
/-!
# The surroundings of a run

What a run asks of the machine: files, standard input, variables and the clock, in any monad. A
fixed set of files serves for runs without a machine.
-/
namespace RecordFilter

inductive FileFailure where
  | missing
  | notDirectory
  | isDirectory
  | nameTooLong
  | denied
  | other (text : String)
  deriving DecidableEq, Repr

def FileFailure.message : FileFailure → String
  | .missing => "No such file or directory (os error 2)"
  | .notDirectory => "Not a directory (os error 20)"
  | .isDirectory => "Is a directory (os error 21)"
  | .nameTooLong => "File name too long (os error 36)"
  | .denied => "Permission denied (os error 13)"
  | .other text => text

structure FileSystem (m : Type → Type) where
  home : Option String
  workingDirectory : String
  /-- Whether there is something at an absolute path. -/
  pathExists : String → m Bool
  /-- The content of the file at an absolute path. -/
  contentAt : String → m (Except FileFailure String)

/-- What stands at a place. -/
inductive FileNode where
  | file (content : String)
  | directory
  deriving DecidableEq, Repr

/-- Files with their contents and directories, each by the names on the way to it. A directory with
something in it need not be listed. -/
structure FileSet where
  files : List (List String × String)
  directories : List (List String)

namespace FileSet

/-- The place that a part of a path leads to. -/
def step (here : List String) (part : String) : List String :=
  if part = "" || part = "." then here
  else if part = ".." then here.dropLast
  else here ++ [part]

def parts (path : String) : List String := path.splitOn "/"

/-- The place of a path, whether there is something on the way or not. -/
def place (path : String) : List String := (parts path).foldl step []

def ofList (files : List (String × String)) (directories : List String) : FileSet :=
  ⟨files.map fun (path, content) => (place path, content), directories.map place⟩

def node? (s : FileSet) (way : List String) : Option FileNode :=
  match s.files.find? (·.1 = way) with
  | some (_, content) => some (.file content)
  | none =>
    if way = [] || s.directories.any way.isPrefixOf || s.files.any (way.isPrefixOf ·.1) then
      some .directory
    else none

/-- Names have at most that many bytes. -/
def maxNameBytes : Nat := 255

/-- What the parts of a path lead to from a place. There has to be a directory before each part,
also before an empty one and a step up. -/
def follow (s : FileSet) (here : List String) : List String → Except FileFailure FileNode
  | [] =>
    match s.node? here with
    | some node => .ok node
    | none => .error .missing
  | part :: rest =>
    match s.node? here with
    | none => .error .missing
    | some (.file _) => .error .notDirectory
    | some .directory =>
      if maxNameBytes < part.utf8ByteSize then .error .nameTooLong
      else s.follow (step here part) rest

def resolve (s : FileSet) (path : String) : Except FileFailure FileNode :=
  s.follow [] (parts path)

def read (s : FileSet) (path : String) : Except FileFailure String :=
  match s.resolve path with
  | .ok (.file content) => .ok content
  | .ok .directory => .error .isDirectory
  | .error e => .error e

def contains (s : FileSet) (path : String) : Bool := (s.resolve path).isOk

def toFileSystem (s : FileSet) (home : Option String) (workingDirectory : String) :
    FileSystem Id where
  home := home
  workingDirectory := workingDirectory
  pathExists := s.contains
  contentAt := s.read

end FileSet
end RecordFilter
