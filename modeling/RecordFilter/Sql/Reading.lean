import RecordFilter.Sql.Clause
/-!
# Placeholders in a text

The placeholders that a database meets when it reads a text from left to right. What stands between
quotes is passed over: names between the quotes of the dialect, literals between single quotes. A
doubled quote ends one quoted run and starts the next, so nothing between the two is read.

## Main definitions

* `Dialect.placeholdersIn` — the placeholders of a text, in order.
-/
namespace RecordFilter

/-- What follows the next quote. -/
def afterQuote (q : Char) (cs : List Char) : List Char := (cs.dropWhile (· ≠ q)).drop 1

theorem length_dropWhile_le {α : Type} (p : α → Bool) (xs : List α) :
    (xs.dropWhile p).length ≤ xs.length :=
  (List.dropWhile_sublist p).length_le

theorem length_afterQuote_le (q : Char) (cs : List Char) :
    (afterQuote q cs).length ≤ cs.length := by
  have := length_dropWhile_le (· ≠ q) cs
  simp only [afterQuote, List.length_drop]
  omega

namespace Dialect

/-- The character that starts a placeholder. -/
def mark : Dialect → Char
  | postgres => '$'
  | _ => '?'

/-- The rest of a placeholder behind its mark: a number, if the dialect numbers parameters. -/
def markTail : Dialect → List Char → List Char
  | postgres, cs => cs.takeWhile Char.isDigit
  | _, _ => []

/-- What follows a placeholder, given what follows its mark. -/
def afterMark : Dialect → List Char → List Char
  | postgres, cs => cs.dropWhile Char.isDigit
  | _, cs => cs

theorem length_afterMark_le (d : Dialect) (cs : List Char) :
    (d.afterMark cs).length ≤ cs.length := by
  cases d <;> simp [afterMark, length_dropWhile_le]

def placeholdersIn (d : Dialect) : List Char → List (List Char)
  | [] => []
  | c :: rest =>
    if c = d.quote || c = '\'' then placeholdersIn d (afterQuote c rest)
    else if c = d.mark then (c :: d.markTail rest) :: placeholdersIn d (d.afterMark rest)
    else placeholdersIn d rest
termination_by cs => cs.length
decreasing_by
  · have := length_afterQuote_le c rest
    simp only [List.length_cons]
    omega
  · have := d.length_afterMark_le rest
    simp only [List.length_cons]
    omega
  · simp

end Dialect
end RecordFilter
