import RecordFilter.Entries
import RecordFilter.Text.Alphanumeric
import RecordFilter.Text.Blank
import RecordFilter.Text.Digits
/-!
# Files of variables

A file of variables has lines `NAME=value`. A value may be quoted, in which case it may run over
several lines; a name behind `$` stands for the value of a variable, except between single quotes.
Reading stops at the first line at fault; the lines before it count.

## Main definitions

* `EnvFile.lines` — the lines, those within quotes kept together.
* `EnvFile.load` — variables with those of a file added that were not there.
-/
namespace RecordFilter.EnvFile

/-- Variables by name, the first of a name counts. -/
abbrev Variables := List (String × String)

/-! ## Lines -/

/-- Where the end of a line finds the reader. -/
inductive LineState where
  | plain | blank | escaped
  | weak | weakEscaped
  | strong | strongEscaped
  | comment
  deriving DecidableEq, Repr

namespace LineState

def open? (c : Char) : Option LineState :=
  if c = '\\' then some escaped
  else if c = '"' then some weak
  else if c = '\'' then some strong
  else none

def isInnerBlank (c : Char) : Bool := Text.isBlank c && c ≠ '\n' && c ≠ '\r'

def next : LineState → Char → LineState
  | comment, _ => comment
  | blank, c => if c = '#' then comment else (open? c).getD plain
  | escaped, _ => plain
  | plain, c => if isInnerBlank c then blank else (open? c).getD plain
  | weak, c => if c = '\\' then weakEscaped else if c = '"' then plain else weak
  | weakEscaped, _ => weak
  | strong, c => if c = '\\' then strongEscaped else if c = '\'' then plain else strong
  | strongEscaped, _ => strong

end LineState

/-- A line of a file, without what follows it. -/
inductive Line where
  | text (cs : List Char)
  /-- The file ends within quotes. -/
  | unfinished
  deriving DecidableEq, Repr

/-- The text without a line end. -/
def chomp (reversed : List Char) : List Char :=
  match reversed with
  | '\n' :: '\r' :: rest => rest.reverse
  | '\n' :: rest => rest.reverse
  | cs => cs.reverse

def isCommentLine (reversed : List Char) : Bool :=
  (Text.skipBlanks reversed.reverse).head? = some '#'

/-- The line that has been read when its end comes, if it is complete. -/
def completed? (state : LineState) (reversed : List Char) : Option Line :=
  if isCommentLine reversed then some (.text [])
  else
    match state with
    | .plain => some (.text (chomp reversed))
    | .comment => some (.text reversed.reverse)
    | _ => none

/-- A comment is cut off where it starts. -/
def linesFrom (state : LineState) (reversed : List Char) : List Char → List Line
  | [] =>
    match reversed, completed? state reversed with
    | [], _ => []
    | _, some line => [line]
    | _, none => [.unfinished]
  | c :: rest =>
    let after := state.next c
    let reversed := if after = .comment then reversed else c :: reversed
    if c = '\n' then
      match completed? after reversed with
      | some line => line :: linesFrom .plain [] rest
      | none => linesFrom after reversed rest
    else linesFrom after reversed rest

def lines (cs : List Char) : List Line := linesFrom .plain [] cs

/-! ## Values -/

inductive Substitution where
  | none | name | braced
  deriving DecidableEq, Repr

/-- What has been read of a value. -/
structure ValueState where
  output : List Char := []
  strong : Bool := false
  weak : Bool := false
  escaped : Bool := false
  ended : Bool := false
  substitution : Substitution := .none
  name : List Char := []

namespace ValueState

/-- Output is kept reversed. -/
def push (s : ValueState) (c : Char) : ValueState := { s with output := c :: s.output }

/-- The value of the variable whose name has been read. -/
def substitute (vars : String → Option String) (s : ValueState) : ValueState :=
  let value := (vars (String.ofList s.name.reverse)).getD ""
  { s with output := value.toList.reverse ++ s.output, substitution := .none, name := [] }

def stepEscaped (s : ValueState) (c : Char) : Option ValueState :=
  let s := { s with escaped := false }
  if c = '\\' || c = '\'' || c = '"' || c = '$' || c = ' ' then some (s.push c)
  else if c = 'n' then some (s.push '\n')
  else none

def stepSubstitution (vars : String → Option String) (s : ValueState) (c : Char) : ValueState :=
  if Text.isAlphanumeric c then { s with name := c :: s.name }
  else
    match s.substitution with
    | .braced => if c = '\x7d' then s.substitute vars else { s with name := c :: s.name }
    | _ =>
      if c = '\x7b' && s.name.isEmpty then { s with substitution := .braced }
      else
        let s := s.substitute vars
        if c = '$' then { s with substitution := .name } else s.push c

/-- One character more; `none` at a fault. A comment ends the value. -/
def step (vars : String → Option String) (s : ValueState) (c : Char) :
    Option (ValueState × Bool) :=
  let go (s : ValueState) : Option (ValueState × Bool) := some (s, true)
  if s.ended then
    if c = ' ' || c = '\t' then go s else if c = '#' then some (s, false) else none
  else if s.escaped then (s.stepEscaped c).map (·, true)
  else if s.strong then go (if c = '\'' then { s with strong := false } else s.push c)
  else if s.substitution ≠ .none then go (s.stepSubstitution vars c)
  else if c = '$' then go { s with substitution := .name }
  else if s.weak then
    go (if c = '"' then { s with weak := false }
      else if c = '\\' then { s with escaped := true } else s.push c)
  else if c = '\'' then go { s with strong := true }
  else if c = '"' then go { s with weak := true }
  else if c = '\\' then go { s with escaped := true }
  else if c = ' ' || c = '\t' then go { s with ended := true }
  else go (s.push c)

def finish (vars : String → Option String) (s : ValueState) : Option String :=
  if s.substitution = .braced || s.strong || s.weak then none
  else some (String.ofList (s.substitute vars).output.reverse)

end ValueState

def valueFrom (vars : String → Option String) (s : ValueState) : List Char → Option String
  | [] => s.finish vars
  | c :: rest =>
    match s.step vars c with
    | none => none
    | some (s, true) => valueFrom vars s rest
    | some (s, false) => s.finish vars

/-! ## Entries -/

def isNameStart (c : Char) : Bool := c.isAlpha || c = '_'

def isNameChar (c : Char) : Bool := c.isAlphanum || c = '_' || c = '.'

def name? (cs : List Char) : Option (List Char × List Char) :=
  match cs with
  | c :: _ =>
    if isNameStart c then some (cs.takeWhile isNameChar, cs.dropWhile isNameChar) else none
  | [] => none

def afterEquals? (cs : List Char) : Option (List Char) :=
  match Text.skipBlanks cs with
  | '=' :: rest => some rest
  | _ => none

/-- The name of a line and what follows the equals sign; `export` may stand before the name. -/
def assignment? (cs : List Char) : Option (List Char × List Char) := do
  let (name, rest) ← name? cs
  match afterEquals? rest with
  | some value => some (name, value)
  | none =>
    if name = "export".toList then
      let (name, rest) ← name? (Text.skipBlanks rest)
      let value ← afterEquals? rest
      some (name, value)
    else none

/-- A line is at fault, says nothing, or gives a variable a value. Blanks at its ends do not count,
whatever stands before them. -/
def entry? (vars : String → Option String) (line : List Char) :
    Option (Option (String × String)) :=
  match Text.trimChars line with
  | [] => some none
  | '#' :: _ => some none
  | cs => do
    let (name, rest) ← assignment? cs
    let value ←
      match Text.skipBlanks rest with
      | [] => some ""
      | '#' :: _ => some ""
      | rest => valueFrom vars {} rest
    some (some (String.ofList name, value))

/-- The entries up to the first fault; each may refer to variables and to the entries before. -/
def entries (vars : Variables) (seen : Variables) : List Line → Variables
  | [] => []
  | .unfinished :: _ => []
  | .text line :: rest =>
    match entry? (fun name => (Entries.lookup? name vars).or (Entries.lookup? name seen)) line with
    | none => []
    | some none => entries vars seen rest
    | some (some (name, value)) =>
      let vars := if (Entries.lookup? name vars).isSome then vars else vars ++ [(name, value)]
      (name, value) :: entries vars ((name, value) :: seen) rest

/-- Variables together with those of a file; what is there already stays. -/
def load (vars : Variables) (content : String) : Variables :=
  let cs := match content.toList with
    | '\ufeff' :: cs => cs
    | cs => cs
  vars ++ entries vars [] (lines cs)

end RecordFilter.EnvFile
