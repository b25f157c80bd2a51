/-!
# Patterns for texts

Two notations for "the text occurs here": SQL patterns, where `%` stands for any run of characters
and `_` for any single one, and regular expressions. In both, a backslash takes the meaning from
the character that follows.
-/
namespace RecordFilter.Text

def isLikeSpecial (c : Char) : Bool := c = '\\' || c = '%' || c = '_'

def escapeLikeChar (c : Char) : List Char := if isLikeSpecial c then ['\\', c] else [c]

def escapeLikeChars (cs : List Char) : List Char := cs.flatMap escapeLikeChar

/-- The text as a SQL pattern that stands for itself. -/
def escapeLike (s : String) : String := String.ofList (escapeLikeChars s.toList)

/-- A SQL pattern for a text, tied to the start or the end of the value or to both. -/
def likePattern (atStart atEnd : Bool) (s : String) : String :=
  String.ofList <|
    (if atStart then [] else ['%']) ++ escapeLikeChars s.toList ++ (if atEnd then [] else ['%'])

/-- The characters that have a meaning in a regular expression. -/
def regexSpecials : List Char :=
  ['\\', '.', '+', '*', '?', '(', ')', '|', '[', ']', '\x7b', '\x7d', '^', '$', '#', '&', '-', '~']

def escapeRegexChar (c : Char) : List Char := if c ∈ regexSpecials then ['\\', c] else [c]

def escapeRegexChars (cs : List Char) : List Char := cs.flatMap escapeRegexChar

/-- A regular expression for a text. The end of the value is `\z`, since `$` would also stand
before a last line feed. -/
def regexPattern (atStart atEnd : Bool) (s : String) : String :=
  String.ofList <|
    (if atStart then ['^'] else []) ++ escapeRegexChars s.toList ++
      (if atEnd then ['\\', 'z'] else [])

end RecordFilter.Text
