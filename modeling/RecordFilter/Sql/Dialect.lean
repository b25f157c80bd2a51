import RecordFilter.Text.Digits
import RecordFilter.Text.LowerCase
import RecordFilter.Text.Blank
import RecordFilter.Json.Reading
/-!
# SQL dialects

How a database writes parameters, names, pattern tests and the search for a value in an array.
-/
namespace RecordFilter

inductive Dialect where
  | sqlite | postgres | duckdb | clickhouse
  deriving DecidableEq, Repr

namespace Dialect

def all : List Dialect := [sqlite, postgres, duckdb, clickhouse]

def name : Dialect → String
  | sqlite => "sqlite"
  | postgres => "postgres"
  | duckdb => "duckdb"
  | clickhouse => "clickhouse"

/-- The dialect of a name in any letter case, between blanks; some have a second name. -/
def ofName? (s : String) : Option Dialect :=
  let s := Text.lowerCase (Text.trim s)
  if s = "postgresql" || s = "pg" then some postgres
  else if s = "sqlite3" then some sqlite
  else all.find? fun d => d.name = s

/-- What is said of a name that no dialect has. -/
def unknownMessage (s : String) : String :=
  "Unknown SQL dialect '" ++ Text.lowerCase (Text.trim s) ++
    "'. Use one of: sqlite, postgres, duckdb, clickhouse"

def table : List (String × Dialect) := all.map fun d => (d.name, d)

/-- The dialect that a document names. -/
def ofDocument : Document → Except DocumentError Dialect := Document.toNamed table

def read (s : String) : Except DocumentError Dialect := Document.read ofDocument s

/-! ## Notation -/

/-- The parameter with that number, counted from 1. -/
def placeholder : Dialect → Nat → List Char
  | postgres, n => '$' :: Text.natDigits n
  | _, _ => ['?']

/-- The character around names. -/
def quote : Dialect → Char
  | clickhouse => '\x60'
  | _ => '"'

/-- A text between quotes; quotes inside are doubled. -/
def quoteWith (q : Char) (cs : List Char) : List Char :=
  q :: (cs.flatMap fun c => if c = q then [q, q] else [c]) ++ [q]

def quoteName (d : Dialect) (name : String) : List Char := quoteWith d.quote name.toList

/-- Whether there is a test of patterns that ignores letter case. -/
def hasILike : Dialect → Bool
  | sqlite => false
  | _ => true

/-- The declaration of the escape character, where it is not declared by itself. -/
def likeEscape : Dialect → List Char
  | clickhouse => []
  | _ => " ESCAPE '\\'".toList

/-- Whether a parameter, given by its text, is in an array. -/
def arrayContains (d : Dialect) (column : List Char) (n : Nat) : List Char :=
  match d with
  | sqlite => "EXISTS (SELECT 1 FROM json_each(".toList ++ column ++ ") WHERE value = ?)".toList
  | postgres => placeholder postgres n ++ " = ANY(".toList ++ column ++ [')']
  | duckdb => "array_contains(".toList ++ column ++ ", ?)".toList
  | clickhouse => "has(".toList ++ column ++ ", ?)".toList

end Dialect
end RecordFilter
