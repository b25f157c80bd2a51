import RecordFilter.Schema.Basic
/-!
# Schema stores

The valid schemas of a session, each under its logical name. Inserting a schema replaces the one
of the same name; an invalid schema leaves the store as it is.

## Main definitions

* `Store.get?`, `Store.register`, `Store.ofSchemas`.
* `Store.ofText` — the store of a document with a list of schemas.
-/
namespace RecordFilter

/-- Each schema stands under its logical name. -/
structure Store where
  entries : List (String × Schema)
  deriving Repr

namespace Store

def empty : Store := ⟨[]⟩

def size (s : Store) : Nat := s.entries.length

def isEmpty (s : Store) : Bool := s.entries.isEmpty

def get? (s : Store) (name : String) : Option Schema := Entries.lookup? name s.entries

/-- A schema put in the place of the one of its name, or at the end. -/
def put (s : Store) (schema : Schema) : Store := ⟨Entries.put schema.logicalName schema s.entries⟩

/-- A call with a schema: what it reports, and the store that it leaves behind. -/
def register (s : Store) (schema : Schema) : Except SchemaFault Unit × Store :=
  match schema.check with
  | .error fault => (.error fault, s)
  | .ok () => (.ok (), s.put schema)

/-- The store that a call leaves behind if it succeeds. -/
def insert (s : Store) (schema : Schema) : Except SchemaFault Store :=
  match s.register schema with
  | (.error fault, _) => .error fault
  | (.ok (), s') => .ok s'

def insertAll (s : Store) : List Schema → Except SchemaFault Store
  | [] => .ok s
  | schema :: rest => do insertAll (← s.insert schema) rest

/-- The store of schemas inserted one after the other; the first fault refuses them all. -/
def ofSchemas (schemas : List Schema) : Except SchemaFault Store := empty.insertAll schemas

/-- The one field of a document of schemas. -/
def addSchemas (found : Option (List Schema)) :
    String × Document → Except DocumentError (Option (List Schema))
  | ("schemas", d) => Document.fill "schemas" found (d.toList Schema.ofDocument)
  | _ => .ok found

def schemasOfDocument : Document → Except DocumentError (List Schema)
  | .object members => do
    Document.require "schemas" (← Document.foldMembers addSchemas none members)
  | .array items => do
    let (schemas, rest) ← Document.first (Document.toList Schema.ofDocument) items
    Document.finish schemas rest
  | _ => .error .mismatch

def ofText (s : String) : Except SchemaFault Store :=
  match Document.read schemasOfDocument s with
  | .ok schemas => ofSchemas schemas
  | .error e => .error (.document e)

@[simp] theorem get?_empty (name : String) : empty.get? name = none := rfl

theorem get?_put (s : Store) (schema : Schema) (name : String) :
    (s.put schema).get? name =
      if schema.logicalName = name then some schema else s.get? name :=
  Entries.lookup?_put schema.logicalName schema s.entries name

end Store
end RecordFilter
