import RecordFilter.Filter.DateContext
/-!
# Values as an attribute stores them

The value of a condition is brought to the form in which its attribute stores values, or refused.
Texts may stand for numbers, truth values and dates; a reference may be wrapped in objects with an
id.

## Main definitions

* `Scalar` — a value in stored form.
* `Attribute.coerce` — a JSON value as a value of an attribute.
* `Attribute.coerceRange` — the two bounds of a range.
-/
namespace RecordFilter

inductive Scalar where
  | text (s : String)
  | number (n : Number)
  | bool (b : Bool)
  | timestamp (t : Instant)
  /-- A calendar date of an attribute that has no time. -/
  | date (d : Date)
  /-- 24 hexadecimal digits in lower case. -/
  | objectId (hex : String)
  deriving DecidableEq, Repr

/-- The upper end of a range. -/
inductive UpperBound where
  | inclusive (s : Scalar)
  | exclusive (s : Scalar)
  deriving DecidableEq, Repr

namespace Scalar

def ofText : Json → Except ValueError Scalar
  | .string s => .ok (.text s)
  | .number n => .ok (.text n.text)
  | .bool b => .ok (.text (if b then "true" else "false"))
  | v => .error (.notText v)

def ofNumber : Json → Except ValueError Scalar
  | .number n => .ok (.number n)
  | .string s =>
    match Number.ofText? s with
    | some n => .ok (.number n)
    | none => .error (.notNumeral s)
  | v => .error (.notNumber v)

/-- A truth value, its name in any letter case, or one of the integers 1 and 0. -/
def toBool? : Json → Option Bool
  | .bool b => some b
  | .string s =>
    let name := Text.lowerAscii (Text.trim s)
    if name = "true" then some true else if name = "false" then some false else none
  | .number n => if n = .int 1 then some true else if n = .int 0 then some false else none
  | _ => none

def ofBoolean (v : Json) : Except ValueError Scalar :=
  match toBool? v with
  | some b => .ok (.bool b)
  | none => .error (.notBoolean v)

def ofDate (c : DateContext) (format : DateFormat) : Json → Except ValueError Scalar
  | .string s =>
    match format with
    | .date =>
      match c.zone.readDay s with
      | some d => .ok (.date d)
      | none => .error (.notDate s .unreadable)
    | .datetime =>
      match c.zone.readInstant s with
      | .ok t => .ok (.timestamp t)
      | .error why => .error (.notDate s why)
  | v => .error (.notDateText v)

/-! ## References -/

mutual

/-- The id inside a reference: a scalar, or an object that keeps one as `id`, `_id` or `$oid`, the
first of these that is there. -/
def unwrap? : Json → Option Json
  | .object members =>
    match unwrapMember? "id" members with
    | some found => found
    | none =>
      match unwrapMember? "_id" members with
      | some found => found
      | none =>
        match unwrapMember? "$oid" members with
        | some found => found
        | none => none
  | .null => none
  | .array _ => none
  | scalar => some scalar

/-- The id inside the member of that name; `none` if there is no such member. -/
def unwrapMember? (name : String) : List (String × Json) → Option (Option Json)
  | [] => none
  | (key, v) :: rest => if key = name then some (unwrap? v) else unwrapMember? name rest

end

def isHexDigit (c : Char) : Bool :=
  c.isDigit || ('a' ≤ c && c ≤ 'f') || ('A' ≤ c && c ≤ 'F')

def isObjectId (s : String) : Bool := s.length = 24 && s.toList.all isHexDigit

def ofReference (kind : ReferenceKind) (v : Json) : Except ValueError Scalar :=
  match unwrap? v with
  | none => .error (.notReference v)
  | some inner =>
    match kind with
    | .objectId =>
      match inner.toString?.filter isObjectId with
      | some hex => .ok (.objectId (Text.lowerAscii hex))
      | none => .error (.notObjectId inner)
    | .string => ofText inner
    | .number => ofNumber inner

end Scalar

namespace Attribute

def coerce (a : Attribute) (c : DateContext) (v : Json) : Except ValueError Scalar :=
  match a with
  | .string => Scalar.ofText v
  | .number => Scalar.ofNumber v
  | .money => Scalar.ofNumber v
  | .boolean => Scalar.ofBoolean v
  | .date format => Scalar.ofDate c format v
  | .choice options => ofDiscriminant (discriminantOf options) v
  | .choices options => ofDiscriminant (discriminantOf options) v
  | .lookup _ reference => Scalar.ofReference reference v
  | .id reference => Scalar.ofReference reference v
where
  ofDiscriminant : Discriminant → Json → Except ValueError Scalar
    | .number, v => Scalar.ofNumber v
    | .string, v => Scalar.ofText v

def coerceAll (a : Attribute) (c : DateContext) : List Json → Except ValueError (List Scalar)
  | [] => .ok []
  | v :: rest => do
    let s ← a.coerce c v
    let ss ← a.coerceAll c rest
    return s :: ss

/-- The members of a list that is not empty. -/
def coerceList (a : Attribute) (c : DateContext) : Json → Except ValueError (List Scalar)
  | .array (v :: rest) => a.coerceAll c (v :: rest)
  | _ => .error .emptyList

/-- The text of a pattern. -/
def patternText : Json → Except ValueError String
  | .string s => .ok s
  | .number n => .ok n.text
  | v => .error (.notText v)

/-- The end of a day that is given without a time. -/
def dayEnd (c : DateContext) (s : String) : Except ValueError UpperBound :=
  match (c.zone.readDay s).bind Date.succ? with
  | none => .error (.notDate s .unreadable)
  | some next => do return .exclusive (.timestamp (← c.midnight next))

/-- The upper end of a range. Where instants are stored, a plain date stands for all of its day. -/
def coerceUpper (a : Attribute) (c : DateContext) (v : Json) : Except ValueError UpperBound :=
  match a, v with
  | .date .datetime, .string s =>
    if (Date.ofText? s).isSome then dayEnd c s else (a.coerce c v).map .inclusive
  | _, _ => (a.coerce c v).map .inclusive

def coerceRange (a : Attribute) (c : DateContext) : Json → Except ValueError (Scalar × UpperBound)
  | .array [low, high] => do
    let low ← a.coerce c low
    let high ← a.coerceUpper c high
    return (low, high)
  | _ => .error .notTwoBounds

end Attribute
end RecordFilter
