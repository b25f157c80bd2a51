import RecordFilter.Entries
import RecordFilter.Json.Basic
/-!
# Documents

The structure of a JSON text as it is written: members keep their order and may repeat a name, and
a part that is correct in form but denotes no value is kept as `unreadable`. Such a part does no
harm where nothing reads it.

## Main definitions

* `Document.toJson?` — the value of a document in which every part denotes one; of a repeated name
  the last value counts, in the place of the first.
* `Json.toDocument` — a value as the document that spells it out.
-/
namespace RecordFilter

/-- A member's name is `none` where its text has half of a surrogate pair. -/
inductive Document where
  | null
  | bool (b : Bool)
  | number (n : Number)
  | string (s : String)
  | array (items : List Document)
  | object (members : List (Option String × Document))
  | unreadable
  deriving Inhabited, Repr

namespace Json

mutual

def toDocument : Json → Document
  | .null => .null
  | .bool b => .bool b
  | .number n => .number n
  | .string s => .string s
  | .array items => .array (itemDocuments items)
  | .object members => .object (memberDocuments members)

def itemDocuments : List Json → List Document
  | [] => []
  | v :: rest => toDocument v :: itemDocuments rest

def memberDocuments : List (String × Json) → List (Option String × Document)
  | [] => []
  | (name, v) :: rest => (some name, toDocument v) :: memberDocuments rest

end

end Json

namespace Document

mutual

def toJson? : Document → Option Json
  | .null => some .null
  | .bool b => some (.bool b)
  | .number n => some (.number n)
  | .string s => some (.string s)
  | .array items => (itemValues? items).map .array
  | .object members => (memberValues? members).map fun vs => .object (Entries.putAll [] vs)
  | .unreadable => none

def itemValues? : List Document → Option (List Json)
  | [] => some []
  | d :: rest =>
    match toJson? d, itemValues? rest with
    | some v, some vs => some (v :: vs)
    | _, _ => none

def memberValues? : List (Option String × Document) → Option (List (String × Json))
  | [] => some []
  | (name, d) :: rest =>
    match name, toJson? d, memberValues? rest with
    | some name, some v, some vs => some ((name, v) :: vs)
    | _, _, _ => none

end

/-- Whether every part denotes a value. -/
def isReadable (d : Document) : Bool := d.toJson?.isSome

end Document
end RecordFilter
