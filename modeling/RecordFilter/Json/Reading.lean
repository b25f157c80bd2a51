import RecordFilter.Json.Parser
/-!
# Reading values out of documents

What the readers of records share. A record is an object or an array of its fields in order. A
field may stand once; names that are not fields are passed over. Whatever the fault, a document
with a part that denotes no value is reported as malformed.

## Main definitions

* `DocumentError` — the causes for which a document is refused.
* `Document.fill`, `Document.require` — the fields of a record that is read member by member.
* `Document.first`, `Document.firstD`, `Document.finish` — the fields of a record in an array.
* `Document.read` — a text read whole.
-/
namespace RecordFilter

inductive DocumentError where
  /-- The text is not the text of a value. -/
  | malformed
  /-- A value of another kind, range or length was expected. -/
  | mismatch
  | missingField (name : String)
  | duplicateField (name : String)
  | unknownVariant (name : String) (expected : List String)
  deriving DecidableEq, Repr

namespace DocumentError

def inBackticks (s : String) : String := "`" ++ s ++ "`"

def expectation : List String → String
  | [a, b] => inBackticks a ++ " or " ++ inBackticks b
  | [a] => inBackticks a
  | names => "one of " ++ ", ".intercalate (names.map inBackticks)

def message : DocumentError → String
  | .malformed => "malformed JSON"
  | .mismatch => "invalid document"
  | .missingField name => "missing field " ++ inBackticks name
  | .duplicateField name => "duplicate field " ++ inBackticks name
  | .unknownVariant name expected =>
    "unknown variant " ++ inBackticks name ++ ", expected " ++ expectation expected

end DocumentError

namespace Document

/-! ## Scalars -/

def toText : Document → Except DocumentError String
  | .string s => .ok s
  | _ => .error .mismatch

def toValue (d : Document) : Except DocumentError Json :=
  match d.toJson? with
  | some v => .ok v
  | none => .error .mismatch

/-- A natural number below a bound. -/
def toNatBelow (bound : Nat) : Document → Except DocumentError Nat
  | .number (.int (.ofNat n)) => if n < bound then .ok n else .error .mismatch
  | _ => .error .mismatch

/-- Null stands for a value that is not given. -/
def toOption {α : Type} (read : Document → Except DocumentError α) :
    Document → Except DocumentError (Option α)
  | .null => .ok none
  | d => (read d).map some

def readItems {α : Type} (read : Document → Except DocumentError α) :
    List Document → Except DocumentError (List α)
  | [] => .ok []
  | d :: rest =>
    match read d with
    | .error e => .error e
    | .ok a => (readItems read rest).map (a :: ·)

def toList {α : Type} (read : Document → Except DocumentError α) :
    Document → Except DocumentError (List α)
  | .array items => readItems read items
  | _ => .error .mismatch

/-! ## Names of alternatives -/

def named {α : Type} (table : List (String × α)) (name : String) : Except DocumentError α :=
  match table.find? (·.1 = name) with
  | some (_, a) => .ok a
  | none => .error (.unknownVariant name (table.map (·.1)))

/-- An alternative by its name, or as an object that maps its name to null. -/
def toNamed {α : Type} (table : List (String × α)) : Document → Except DocumentError α
  | .string s => named table s
  | .object ((some name, content) :: rest) => do
    let a ← named table name
    match content, rest with
    | .null, [] => .ok a
    | _, _ => .error .mismatch
  | _ => .error .mismatch

/-- As `toNamed`, inside a record that is chosen by a member; there the object has to have one
member, and an empty object serves as well as null. -/
def toNamedWithin {α : Type} (table : List (String × α)) : Document → Except DocumentError α
  | .string s => named table s
  | .object [(some name, content)] => do
    let a ← named table name
    match content with
    | .null => .ok a
    | .object [] => .ok a
    | _ => .error .mismatch
  | _ => .error .mismatch

/-! ## Records as objects -/

/-- The members of a record, taken one by one; each has to have a name that can be read. -/
def foldMembers {σ : Type} (step : σ → String × Document → Except DocumentError σ) (s : σ) :
    List (Option String × Document) → Except DocumentError σ
  | [] => .ok s
  | (some name, d) :: rest =>
    match step s (name, d) with
    | .error e => .error e
    | .ok s => foldMembers step s rest
  | (none, _) :: _ => .error .mismatch

/-- A field filled by a member of its name. -/
def fill {α : Type} (name : String) (slot : Option α) (value : Except DocumentError α) :
    Except DocumentError (Option α) :=
  match slot with
  | some _ => .error (.duplicateField name)
  | none => value.map some

def require {α : Type} (name : String) : Option α → Except DocumentError α
  | some a => .ok a
  | none => .error (.missingField name)

/-! ## Records as arrays -/

def first {α : Type} (read : Document → Except DocumentError α) :
    List Document → Except DocumentError (α × List Document)
  | [] => .error .mismatch
  | d :: rest => (read d).map (·, rest)

def firstD {α : Type} (read : Document → Except DocumentError α) (absent : α) :
    List Document → Except DocumentError (α × List Document)
  | [] => .ok (absent, [])
  | d :: rest => (read d).map (·, rest)

def finish {α : Type} (a : α) : List Document → Except DocumentError α
  | [] => .ok a
  | _ => .error .mismatch

/-! ## Whole texts -/

/-- A document read whole: what denotes no value outweighs every other fault. -/
def readWhole {α : Type} (read : Document → Except DocumentError α) (d : Document) :
    Except DocumentError α :=
  match read d with
  | .ok a => .ok a
  | .error e => .error (if d.isReadable then e else .malformed)

def read {α : Type} (read : Document → Except DocumentError α) (s : String) :
    Except DocumentError α :=
  match parse? s with
  | some d => readWhole read d
  | none => .error .malformed

end Document

/-- The value that a text consists of. -/
def Json.read (s : String) : Except DocumentError Json := Document.read Document.toValue s

end RecordFilter
