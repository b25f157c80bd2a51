import RecordFilter.Text.Blank
/-!
# Paths

Paths are texts with slashes. Nothing is simplified: `.` and `..` stay where they are.
-/
namespace RecordFilter.Path

def isAbsolute (p : List Char) : Bool := p.head? = some '/'

/-- A path below a directory; an absolute path replaces the directory. -/
def joinChars (base p : List Char) : List Char :=
  if isAbsolute p then p
  else if base = [] || base.getLast? = some '/' then base ++ p
  else base ++ '/' :: p

def join (base p : String) : String := String.ofList (joinChars base.toList p.toList)

/-- A leading `~` stands for the home directory. -/
def expandHome (home : Option String) (p : List Char) : List Char :=
  match home, p with
  | some home, ['~'] => home.toList
  | some home, '~' :: '/' :: rest => joinChars home.toList rest
  | _, p => p

/-- A path between blanks made absolute; the empty path is the working directory. -/
def expand (home : Option String) (workingDirectory : String) (p : String) : String :=
  match Text.trimChars p.toList with
  | [] => workingDirectory
  | p => String.ofList (joinChars workingDirectory.toList (expandHome home p))

end RecordFilter.Path
