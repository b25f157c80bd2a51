import RecordFilter.Number.Basic
/-!
# JSON values

Values with their members in order, each name at most once when they come from a document, and the
two texts they are written with: compact, and indented by two blanks.
-/
namespace RecordFilter

inductive Json where
  | null
  | bool (b : Bool)
  | number (n : Number)
  | string (s : String)
  | array (items : List Json)
  | object (members : List (String × Json))
  deriving Inhabited, Repr

namespace Json

def int (z : Int) : Json := .number (.int z)

def nat (n : Nat) : Json := .number (.int n)

def isNull : Json → Bool
  | .null => true
  | _ => false

def isString : Json → Bool
  | .string _ => true
  | _ => false

def isNumber : Json → Bool
  | .number _ => true
  | _ => false

def toString? : Json → Option String
  | .string s => some s
  | _ => none

/-! ## Text -/

def hexDigit (n : Nat) : Char := Char.ofNat (if n < 10 then 48 + n else 87 + n)

/-- A character inside quotes. Only quotes, backslashes and control characters are escaped. -/
def escape (c : Char) : List Char :=
  match c with
  | '"' => ['\\', '"']
  | '\\' => ['\\', '\\']
  | '\x08' => ['\\', 'b']
  | '\x0c' => ['\\', 'f']
  | '\n' => ['\\', 'n']
  | '\r' => ['\\', 'r']
  | '\t' => ['\\', 't']
  | c =>
    if c.toNat < 0x20 then ['\\', 'u', '0', '0', hexDigit (c.toNat / 16), hexDigit (c.toNat % 16)]
    else [c]

def quoted (s : String) : String := String.ofList ('"' :: s.toList.flatMap escape ++ ['"'])

def scalarText : Json → String
  | .null => "null"
  | .bool b => if b then "true" else "false"
  | .number n => n.text
  | .string s => quoted s
  | .array _ => "[]"
  | .object _ => "\x7b\x7d"

mutual

/-- The text without blanks. -/
def text : Json → String
  | .array items => "[" ++ ",".intercalate (itemTexts items) ++ "]"
  | .object members => "\x7b" ++ ",".intercalate (memberTexts members) ++ "\x7d"
  | scalar => scalarText scalar

def itemTexts : List Json → List String
  | [] => []
  | v :: rest => text v :: itemTexts rest

def memberTexts : List (String × Json) → List String
  | [] => []
  | (name, v) :: rest => (quoted name ++ ":" ++ text v) :: memberTexts rest

end

/-- Entries on lines of their own between two brackets, at a given indentation. -/
def block (opening closing indent : String) (entries : List String) : String :=
  let inner := indent ++ "  "
  opening ++ "\n" ++ ",\n".intercalate (entries.map (inner ++ ·)) ++ "\n" ++ indent ++ closing

mutual

def indented (indent : String) : Json → String
  | .array (v :: rest) => block "[" "]" indent (indentedItems (indent ++ "  ") (v :: rest))
  | .object (m :: rest) =>
    block "\x7b" "\x7d" indent (indentedMembers (indent ++ "  ") (m :: rest))
  | v => scalarText v

def indentedItems (indent : String) : List Json → List String
  | [] => []
  | v :: rest => indented indent v :: indentedItems indent rest

def indentedMembers (indent : String) : List (String × Json) → List String
  | [] => []
  | (name, v) :: rest =>
    (quoted name ++ ": " ++ indented indent v) :: indentedMembers indent rest

end

/-- The text with each entry on a line of its own; what is empty stays on one line. -/
def prettyText (v : Json) : String := indented "" v

end Json
end RecordFilter
