import RecordFilter.Json.Document
import RecordFilter.Number.Numeral
/-!
# Reading JSON text

A reader by descent. Each step returns the document it has read together with the rest of the
text; the depth of nesting is counted on the way, and what lies deeper than 127 levels is read but
denotes no value. The fuel bounds the nesting of calls: the length of the text suffices, since
every call but the first follows a character that has been consumed.
-/
namespace RecordFilter.Document.Parser

/-- Containers nest at most this deep. -/
def maxDepth : Nat := 127

def isSpace (c : Char) : Bool := c = ' ' || c = '\n' || c = '\t' || c = '\r'

def skipSpace (cs : List Char) : List Char := cs.dropWhile isSpace

/-! ## Strings -/

def hexValue? (c : Char) : Option Nat :=
  if '0' ≤ c && c ≤ '9' then some (c.toNat - 48)
  else if 'a' ≤ c && c ≤ 'f' then some (c.toNat - 87)
  else if 'A' ≤ c && c ≤ 'F' then some (c.toNat - 55)
  else none

def hexUnit? (a b c d : Char) : Option Nat := do
  let a ← hexValue? a
  let b ← hexValue? b
  let c ← hexValue? c
  let d ← hexValue? d
  return ((a * 16 + b) * 16 + c) * 16 + d

/-- The character that a backslash and a letter stand for. -/
def unescape? : Char → Option Char
  | '"' => some '"'
  | '\\' => some '\\'
  | '/' => some '/'
  | 'b' => some '\x08'
  | 'f' => some '\x0c'
  | 'n' => some '\n'
  | 'r' => some '\r'
  | 't' => some '\t'
  | _ => none

/-- The code units of a string up to its closing quote, and the rest behind the quote. -/
def units? : List Char → Option (List Nat × List Char)
  | [] => none
  | '"' :: rest => some ([], rest)
  | '\\' :: 'u' :: a :: b :: c :: d :: rest =>
    match hexUnit? a b c d, units? rest with
    | some u, some (us, rest) => some (u :: us, rest)
    | _, _ => none
  | '\\' :: e :: rest =>
    match unescape? e, units? rest with
    | some c, some (us, rest) => some (c.toNat :: us, rest)
    | _, _ => none
  | c :: rest =>
    if c.toNat < 0x20 then none
    else (units? rest).map fun (us, rest) => (c.toNat :: us, rest)

def isHighSurrogate (u : Nat) : Bool := 0xD800 ≤ u && u < 0xDC00

def isLowSurrogate (u : Nat) : Bool := 0xDC00 ≤ u && u < 0xE000

/-- Code units as characters; surrogates have to come in pairs. -/
def ofUnits? : List Nat → Option (List Char)
  | [] => some []
  | [u] => if isHighSurrogate u || isLowSurrogate u then none else some [Char.ofNat u]
  | u :: v :: rest =>
    if isHighSurrogate u then
      if isLowSurrogate v then
        (ofUnits? rest).map (Char.ofNat (0x10000 + (u - 0xD800) * 0x400 + (v - 0xDC00)) :: ·)
      else none
    else if isLowSurrogate u then none
    else (ofUnits? (v :: rest)).map (Char.ofNat u :: ·)

/-- A string behind its opening quote: its text, if it has one, and the rest. -/
def string? (cs : List Char) : Option (Option String × List Char) :=
  (units? cs).map fun (us, rest) => ((ofUnits? us).map String.ofList, rest)

/-! ## Numbers -/

/-- The digits of the whole part: no zero in front of other digits. -/
def whole? (cs : List Char) : Option (List Char × List Char) :=
  match Text.spanDigits cs with
  | ([], _) => none
  | ('0' :: _ :: _, _) => none
  | split => some split

def fraction? : List Char → Option (Option (List Char) × List Char)
  | '.' :: cs =>
    match Text.spanDigits cs with
    | ([], _) => none
    | (digits, rest) => some (some digits, rest)
  | cs => some (none, cs)

def exponentDigits? (negative : Bool) (cs : List Char) : Option (Option Int × List Char) :=
  match Text.spanDigits cs with
  | ([], _) => none
  | (digits, rest) =>
    let n : Int := Text.ofDigits digits
    some (some (if negative then -n else n), rest)

def exponent? : List Char → Option (Option Int × List Char)
  | c :: cs =>
    if c = 'e' || c = 'E' then
      match cs with
      | '+' :: cs => exponentDigits? false cs
      | '-' :: cs => exponentDigits? true cs
      | cs => exponentDigits? false cs
    else some (none, c :: cs)
  | [] => some (none, [])

def numeral? (cs : List Char) : Option (Numeral × List Char) := do
  let (negative, cs) := match cs with
    | '-' :: cs => (true, cs)
    | cs => (false, cs)
  let (whole, cs) ← whole? cs
  let (fraction, cs) ← fraction? cs
  let (exponent, cs) ← exponent? cs
  return (⟨negative, whole, fraction, exponent⟩, cs)

def ofNumeral (l : Numeral) : Document :=
  match l.toNumber? with
  | some n => .number n
  | none => .unreadable

/-! ## Values -/

def ofText : Option String → Document
  | some s => .string s
  | none => .unreadable

/-- A container at that depth. -/
def atDepth (depth : Nat) (d : Document) : Document := if maxDepth < depth then .unreadable else d

mutual

def value? : Nat → Nat → List Char → Option (Document × List Char)
  | 0, _, _ => none
  | fuel + 1, depth, cs =>
    match skipSpace cs with
    | 'n' :: 'u' :: 'l' :: 'l' :: rest => some (.null, rest)
    | 't' :: 'r' :: 'u' :: 'e' :: rest => some (.bool true, rest)
    | 'f' :: 'a' :: 'l' :: 's' :: 'e' :: rest => some (.bool false, rest)
    | '"' :: rest => (string? rest).map fun (s, rest) => (ofText s, rest)
    | '[' :: rest =>
      match skipSpace rest with
      | ']' :: rest => some (atDepth (depth + 1) (.array []), rest)
      | rest =>
        (items? fuel (depth + 1) rest).map fun (items, rest) =>
          (atDepth (depth + 1) (.array items), rest)
    | '\x7b' :: rest =>
      match skipSpace rest with
      | '\x7d' :: rest => some (atDepth (depth + 1) (.object []), rest)
      | rest =>
        (members? fuel (depth + 1) rest).map fun (members, rest) =>
          (atDepth (depth + 1) (.object members), rest)
    | rest => (numeral? rest).map fun (l, rest) => (ofNumeral l, rest)

def items? : Nat → Nat → List Char → Option (List Document × List Char)
  | 0, _, _ => none
  | fuel + 1, depth, cs =>
    match value? fuel depth cs with
    | none => none
    | some (item, rest) =>
      match skipSpace rest with
      | ',' :: rest => (items? fuel depth rest).map fun (items, rest) => (item :: items, rest)
      | ']' :: rest => some ([item], rest)
      | _ => none

def members? : Nat → Nat → List Char → Option (List (Option String × Document) × List Char)
  | 0, _, _ => none
  | fuel + 1, depth, cs =>
    match skipSpace cs with
    | '"' :: rest =>
      match string? rest with
      | none => none
      | some (name, rest) =>
        match skipSpace rest with
        | ':' :: rest =>
          match value? fuel depth rest with
          | none => none
          | some (item, rest) =>
            match skipSpace rest with
            | ',' :: rest =>
              (members? fuel depth rest).map fun (members, rest) => ((name, item) :: members, rest)
            | '\x7d' :: rest => some ([(name, item)], rest)
            | _ => none
        | _ => none
    | _ => none

end

end Parser

/-- The document that a text consists of; `none` if the text is not correct in form. -/
def parse? (s : String) : Option Document :=
  let cs := s.toList
  match Parser.value? (2 * cs.length + 1) 0 cs with
  | some (d, rest) => if Parser.skipSpace rest = [] then some d else none
  | none => none

end RecordFilter.Document
