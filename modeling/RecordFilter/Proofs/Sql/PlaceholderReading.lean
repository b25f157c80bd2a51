import RecordFilter.Sql.Reading
import RecordFilter.Proofs.Text.DecimalDigits
/-!
# Placeholders of a clause

The text of a clause read from left to right. Names are passed over whatever they contain, keywords
and the declaration of the escape character hold no placeholder, and a placeholder with a number is
read whole because no digit follows it.

## Main definitions

* `Dialect.EndsNumber` — texts that may follow a placeholder.
* `Dialect.Finds` — the placeholders read in a text, whatever follows it.

## Main statements

* `Clause.finds_chars` — the placeholders of a clause.
-/
namespace RecordFilter

/-- The characters that start a quoted run or a placeholder in some dialect. -/
def markingChars : List Char := ['"', '\x60', '\'', '$', '?']

/-- A text without quotes and marks. -/
def IsKeyword (cs : List Char) : Prop := ∀ c ∈ cs, c ∉ markingChars

instance (cs : List Char) : Decidable (IsKeyword cs) :=
  List.decidableBAll (fun c => c ∉ markingChars) cs

namespace Dialect

variable {d : Dialect}

theorem quote_mem_markingChars (d : Dialect) : d.quote ∈ markingChars := by
  cases d <;> decide

theorem mark_mem_markingChars (d : Dialect) : d.mark ∈ markingChars := by
  cases d <;> decide

theorem mark_ne_quote (d : Dialect) : d.mark ≠ d.quote := by
  cases d <;> decide

theorem mark_ne_apostrophe (d : Dialect) : d.mark ≠ '\'' := by
  cases d <;> decide

/-! ## One character read -/

@[simp] theorem placeholdersIn_nil (d : Dialect) : d.placeholdersIn [] = [] := by
  rw [placeholdersIn]

theorem placeholdersIn_quote (d : Dialect) (rest : List Char) :
    d.placeholdersIn (d.quote :: rest) = d.placeholdersIn (afterQuote d.quote rest) := by
  rw [placeholdersIn]
  simp

theorem placeholdersIn_apostrophe (d : Dialect) (rest : List Char) :
    d.placeholdersIn ('\'' :: rest) = d.placeholdersIn (afterQuote '\'' rest) := by
  rw [placeholdersIn]
  simp

theorem placeholdersIn_mark (d : Dialect) (rest : List Char) :
    d.placeholdersIn (d.mark :: rest) =
      (d.mark :: d.markTail rest) :: d.placeholdersIn (d.afterMark rest) := by
  rw [placeholdersIn]
  simp [d.mark_ne_quote, d.mark_ne_apostrophe]

theorem placeholdersIn_of_not_mem {c : Char} (h : c ∉ markingChars) (rest : List Char) :
    d.placeholdersIn (c :: rest) = d.placeholdersIn rest := by
  have hquote : c ≠ d.quote := fun he => h (he ▸ d.quote_mem_markingChars)
  have hmark : c ≠ d.mark := fun he => h (he ▸ d.mark_mem_markingChars)
  have hapostrophe : c ≠ '\'' := fun he => h (he ▸ by decide)
  rw [placeholdersIn]
  simp [hquote, hmark, hapostrophe]

theorem placeholdersIn_keyword {cs : List Char} (h : IsKeyword cs) (rest : List Char) :
    d.placeholdersIn (cs ++ rest) = d.placeholdersIn rest := by
  induction cs with
  | nil => rfl
  | cons c cs ih =>
    rw [List.cons_append, placeholdersIn_of_not_mem (h c List.mem_cons_self)]
    exact ih fun c' hc' => h c' (List.mem_cons_of_mem c hc')

/-! ## Quoted runs -/

/-- Inside the quotes: each doubled quote ends a run and starts the next. -/
theorem placeholdersIn_afterQuote (d : Dialect) (cs rest : List Char) :
    d.placeholdersIn (afterQuote d.quote
        ((cs.flatMap fun c => if c = d.quote then [d.quote, d.quote] else [c]) ++
          d.quote :: rest)) =
      d.placeholdersIn rest := by
  induction cs with
  | nil => simp [afterQuote]
  | cons c cs ih =>
    by_cases h : c = d.quote
    · simp only [List.flatMap_cons, h, if_true, List.cons_append, List.nil_append]
      rw [afterQuote, List.dropWhile_cons_of_neg (by simp), List.drop_one, List.tail_cons,
        placeholdersIn_quote]
      exact ih
    · simp only [List.flatMap_cons, h, if_false, List.cons_append, List.nil_append]
      rw [afterQuote, List.dropWhile_cons_of_pos (by simpa using h)]
      exact ih

theorem placeholdersIn_quoteName (d : Dialect) (name : String) (rest : List Char) :
    d.placeholdersIn (d.quoteName name ++ rest) = d.placeholdersIn rest := by
  rw [quoteName, quoteWith, List.append_assoc, List.cons_append, placeholdersIn_quote]
  exact d.placeholdersIn_afterQuote name.toList rest

theorem placeholdersIn_likeEscape (d : Dialect) (rest : List Char) :
    d.placeholdersIn (d.likeEscape ++ rest) = d.placeholdersIn rest := by
  have hread (d : Dialect) :
      d.placeholdersIn (" ESCAPE '\\'".toList ++ rest) = d.placeholdersIn rest := by
    have hsplit : " ESCAPE '\\'".toList ++ rest =
        " ESCAPE ".toList ++ '\'' :: '\\' :: '\'' :: rest := rfl
    rw [hsplit, placeholdersIn_keyword (by decide), placeholdersIn_apostrophe]
    simp [afterQuote]
  cases d with
  | clickhouse => rfl
  | sqlite | postgres | duckdb => exact hread _

/-! ## Placeholders -/

/-- A text that may follow a number: its first character is not a digit. -/
def EndsNumber (cs : List Char) : Prop := ∀ c ∈ cs.head?, c.isDigit = false

@[simp] theorem endsNumber_nil : EndsNumber [] := by simp [EndsNumber]

@[simp] theorem endsNumber_cons {c : Char} {cs : List Char} :
    EndsNumber (c :: cs) ↔ c.isDigit = false := by simp [EndsNumber]

theorem endsNumber_append {cs : List Char} (h : cs.head?.any (fun c => !c.isDigit) = true)
    (rest : List Char) : EndsNumber (cs ++ rest) := by
  cases cs with
  | nil => simp at h
  | cons c cs => simpa using h

theorem dropWhile_isDigit {cs : List Char} (h : EndsNumber cs) :
    cs.dropWhile Char.isDigit = cs := by
  cases cs with
  | nil => rfl
  | cons c cs => rw [List.dropWhile_cons_of_neg (by simpa using h)]

theorem takeWhile_isDigit {cs : List Char} (h : EndsNumber cs) :
    cs.takeWhile Char.isDigit = [] := by
  cases cs with
  | nil => rfl
  | cons c cs => rw [List.takeWhile_cons_of_neg (by simpa using h)]

/-- A placeholder is its mark and a number that is read whole. -/
theorem placeholder_eq_mark_cons (d : Dialect) (n : Nat) :
    ∃ ds, d.placeholder n = d.mark :: ds ∧
      ∀ rest, EndsNumber rest → d.markTail (ds ++ rest) = ds ∧ d.afterMark (ds ++ rest) = rest := by
  cases d with
  | postgres =>
    have hdigits : ∀ c ∈ Text.natDigits n, c.isDigit = true := fun c hc =>
      Text.isDigit_of_mem_natDigits hc
    refine ⟨Text.natDigits n, rfl, fun rest hrest => ⟨?_, ?_⟩⟩
    · rw [markTail, List.takeWhile_append_of_pos hdigits, takeWhile_isDigit hrest,
        List.append_nil]
    · rw [afterMark, List.dropWhile_append_of_pos hdigits, dropWhile_isDigit hrest]
  | sqlite | duckdb | clickhouse => exact ⟨[], rfl, fun rest _ => ⟨rfl, rfl⟩⟩

/-- These placeholders are read in a text, whatever follows that does not go on with a number. -/
def Finds (d : Dialect) (text : List Char) (found : List (List Char)) : Prop :=
  ∀ rest, EndsNumber rest → d.placeholdersIn (text ++ rest) = found ++ d.placeholdersIn rest

theorem placeholdersIn_placeholder (d : Dialect) (n : Nat) {rest : List Char}
    (h : EndsNumber rest) :
    d.placeholdersIn (d.placeholder n ++ rest) = d.placeholder n :: d.placeholdersIn rest := by
  obtain ⟨ds, hds, hread⟩ := d.placeholder_eq_mark_cons n
  obtain ⟨htail, hafter⟩ := hread rest h
  rw [hds, List.cons_append, placeholdersIn_mark, htail, hafter]

/-- Texts with a separator show what the texts show. -/
theorem Finds.intercalate_cons {separator text : List Char} {texts : List (List Char)}
    {first others : List (List Char)} (hseparator : IsKeyword separator)
    (hend : separator.head?.any (fun c => !c.isDigit) = true) (hfirst : d.Finds text first)
    (hothers : d.Finds (separator.intercalate texts) others) :
    d.Finds (separator.intercalate (text :: texts)) (first ++ others) := by
  intro rest hrest
  cases texts with
  | nil =>
    have hnone : others = [] := by simpa using (hothers [] endsNumber_nil).symm
    simpa [hnone] using hfirst rest hrest
  | cons next texts =>
    rw [List.intercalate_cons_cons, List.append_assoc, List.append_assoc,
      hfirst _ (endsNumber_append hend _), placeholdersIn_keyword hseparator, hothers rest hrest,
      List.append_assoc]

/-! ## Searches in arrays -/

theorem arrayContains_postgres (column : List Char) (n : Nat) :
    postgres.arrayContains column n =
      postgres.placeholder n ++ (" = ANY(".toList ++ (column ++ [')'])) := by
  unfold arrayContains
  simp only [List.append_assoc]

theorem arrayContains_sqlite (column : List Char) (n : Nat) :
    sqlite.arrayContains column n = "EXISTS (SELECT 1 FROM json_each(".toList ++
      (column ++ (") WHERE value = ".toList ++ (sqlite.placeholder n ++ [')']))) := by
  unfold arrayContains
  simp only [List.append_assoc]
  rfl

theorem arrayContains_duckdb (column : List Char) (n : Nat) :
    duckdb.arrayContains column n = "array_contains(".toList ++
      (column ++ (", ".toList ++ (duckdb.placeholder n ++ [')']))) := by
  unfold arrayContains
  simp only [List.append_assoc]
  rfl

theorem arrayContains_clickhouse (column : List Char) (n : Nat) :
    clickhouse.arrayContains column n = "has(".toList ++
      (column ++ (", ".toList ++ (clickhouse.placeholder n ++ [')']))) := by
  unfold arrayContains
  simp only [List.append_assoc]
  rfl

section

variable {column : List Char}
  (hcolumn : ∀ rest, d.placeholdersIn (column ++ rest) = d.placeholdersIn rest)
include hcolumn

/-- A call that names the column first. -/
theorem placeholdersIn_call {opening middle : List Char} (hopening : IsKeyword opening)
    (hmiddle : IsKeyword middle) (n : Nat) (rest : List Char) :
    d.placeholdersIn (opening ++ (column ++ (middle ++ (d.placeholder n ++ [')']))) ++ rest) =
      d.placeholder n :: d.placeholdersIn rest := by
  simp only [List.append_assoc, List.cons_append, List.nil_append]
  rw [placeholdersIn_keyword hopening, hcolumn, placeholdersIn_keyword hmiddle,
    placeholdersIn_placeholder d n (endsNumber_cons.2 rfl),
    placeholdersIn_of_not_mem (by decide)]

/-- There is one placeholder, on whichever side of the column it stands. -/
theorem placeholdersIn_arrayContains (n : Nat) (rest : List Char) :
    d.placeholdersIn (d.arrayContains column n ++ rest) =
      d.placeholder n :: d.placeholdersIn rest := by
  cases d with
  | postgres =>
    rw [arrayContains_postgres]
    simp only [List.append_assoc, List.cons_append, List.nil_append]
    rw [placeholdersIn_placeholder postgres n (endsNumber_append rfl _),
      placeholdersIn_keyword (by decide), hcolumn, placeholdersIn_of_not_mem (by decide)]
  | sqlite => rw [arrayContains_sqlite, placeholdersIn_call hcolumn (by decide) (by decide)]
  | duckdb => rw [arrayContains_duckdb, placeholdersIn_call hcolumn (by decide) (by decide)]
  | clickhouse =>
    rw [arrayContains_clickhouse, placeholdersIn_call hcolumn (by decide) (by decide)]

end

end Dialect

namespace Clause

open Dialect

variable {d : Dialect} {used : Nat}

theorem placeholders_add (d : Dialect) (used m n : Nat) :
    placeholders d used (m + n) = placeholders d used m ++ placeholders d (used + m) n := by
  induction m generalizing used with
  | zero => simp [placeholders]
  | succ m ih =>
    rw [Nat.succ_add, placeholders, ih (used + 1), placeholders, List.cons_append,
      Nat.add_right_comm used 1 m]
    rfl

theorem placeholders_eq_map (d : Dialect) (used n : Nat) :
    placeholders d used n = (List.range' (used + 1) n).map d.placeholder := by
  induction n generalizing used with
  | zero => rfl
  | succ n ih => rw [placeholders, List.range'_succ, List.map_cons, ih (used + 1)]

/-! ## Columns and lists of values -/

theorem placeholdersIn_columnText (d : Dialect) (column : Column) (rest : List Char) :
    d.placeholdersIn (columnText d column ++ rest) = d.placeholdersIn rest := by
  rw [columnText]
  split
  · rw [List.append_assoc, placeholdersIn_quoteName, List.cons_append,
      placeholdersIn_of_not_mem (by decide), placeholdersIn_quoteName]
  · exact d.placeholdersIn_quoteName column.name rest

theorem isKeyword_notText (negated : Bool) : IsKeyword (notText negated) := by
  cases negated <;> decide

theorem isKeyword_likeText (d : Dialect) (anyCase : Bool) : IsKeyword (likeText d anyCase) := by
  cases d <;> cases anyCase <;> decide

theorem isKeyword_symbol (c : Comparator) : IsKeyword c.symbol.toList := by
  cases c <;> decide

theorem endsNumber_likeEscape {rest : List Char} (d : Dialect) (h : EndsNumber rest) :
    EndsNumber (d.likeEscape ++ rest) := by
  cases d with
  | clickhouse => exact h
  | sqlite | postgres | duckdb => exact endsNumber_append rfl rest

/-! ## Parts with separators -/

theorem finds_placeholders (d : Dialect) (used n : Nat) :
    d.Finds ([',', ' '].intercalate (placeholders d used n)) (placeholders d used n) := by
  induction n generalizing used with
  | zero => exact fun rest _ => rfl
  | succ n ih =>
    have hfirst : d.Finds (d.placeholder (used + 1)) [d.placeholder (used + 1)] :=
      fun rest hrest => d.placeholdersIn_placeholder (used + 1) hrest
    exact hfirst.intercalate_cons (by decide) rfl (ih (used + 1))

theorem finds_joined {separator empty : String} {texts found : List (List Char)}
    (hempty : IsKeyword empty.toList)
    (h : d.Finds (separator.toList.intercalate texts) found) :
    d.Finds (joined separator empty texts) found := by
  intro rest hrest
  match texts with
  | [] =>
    have hnone : found = [] := by simpa using (h [] endsNumber_nil).symm
    rw [joined, placeholdersIn_keyword hempty, hnone, List.nil_append]
  | [text] => simpa [joined] using h rest hrest
  | first :: second :: texts =>
    simp only [joined, List.cons_append, List.append_assoc, List.nil_append]
    rw [placeholdersIn_of_not_mem (by decide), h _ (endsNumber_cons.2 rfl),
      placeholdersIn_of_not_mem (by decide)]

/-! ## Clauses -/

mutual

/-- A clause after so many parameters shows the placeholders of its own, in their order. -/
theorem finds_chars (d : Dialect) (used : Nat) (c : Clause) :
    d.Finds (chars d used c) (placeholders d used c.params.length) := by
  intro rest hrest
  match c with
  | .compare column c value =>
    simp only [chars, List.append_assoc, List.cons_append]
    rw [placeholdersIn_columnText, placeholdersIn_of_not_mem (by decide),
      placeholdersIn_keyword (isKeyword_symbol c), placeholdersIn_of_not_mem (by decide),
      placeholdersIn_placeholder d (used + 1) hrest]
    rfl
  | .like column anyCase pattern negated =>
    simp only [chars, List.append_assoc, List.cons_append]
    rw [placeholdersIn_columnText, placeholdersIn_of_not_mem (by decide),
      placeholdersIn_keyword (isKeyword_notText negated),
      placeholdersIn_keyword (isKeyword_likeText d anyCase),
      placeholdersIn_placeholder d (used + 1) (endsNumber_likeEscape d hrest),
      placeholdersIn_likeEscape]
    rfl
  | .member column values negated =>
    simp only [chars, List.append_assoc, List.cons_append, List.nil_append]
    rw [placeholdersIn_columnText, placeholdersIn_of_not_mem (by decide),
      placeholdersIn_keyword (isKeyword_notText negated), placeholdersIn_keyword (by decide),
      finds_placeholders d used values.length _ (endsNumber_cons.2 rfl),
      placeholdersIn_of_not_mem (by decide)]
    rfl
  | .between column low high =>
    simp only [chars, List.append_assoc]
    rw [placeholdersIn_columnText, placeholdersIn_keyword (by decide),
      placeholdersIn_placeholder d (used + 1) (endsNumber_append rfl _),
      placeholdersIn_keyword (by decide), placeholdersIn_placeholder d (used + 2) hrest]
    rfl
  | .isNull column negated =>
    simp only [chars, List.append_assoc]
    rw [placeholdersIn_columnText, placeholdersIn_keyword (by decide),
      placeholdersIn_keyword (isKeyword_notText negated), placeholdersIn_keyword (by decide)]
    rfl
  | .contains column value =>
    exact placeholdersIn_arrayContains (placeholdersIn_columnText d column) (used + 1) rest
  | .and parts =>
    exact finds_joined (by decide) (finds_charsAll d used (by decide) rfl parts) rest hrest
  | .or parts =>
    exact finds_joined (by decide) (finds_charsAll d used (by decide) rfl parts) rest hrest
  | .not part =>
    simp only [chars, List.append_assoc, List.cons_append, List.nil_append]
    rw [placeholdersIn_keyword (by decide), finds_chars d used part _ (endsNumber_cons.2 rfl),
      placeholdersIn_of_not_mem (by decide)]
    rfl

theorem finds_charsAll (d : Dialect) (used : Nat) {separator : String}
    (hseparator : IsKeyword separator.toList)
    (hend : separator.toList.head?.any (fun c => !c.isDigit) = true) (parts : List Clause) :
    d.Finds (separator.toList.intercalate (charsAll d used parts))
      (placeholders d used (paramsAll parts).length) := by
  match parts with
  | [] => exact fun rest _ => rfl
  | c :: parts =>
    rw [charsAll, paramsAll, List.length_append, placeholders_add]
    exact (finds_chars d used c).intercalate_cons hseparator hend
      (finds_charsAll d (used + c.params.length) hseparator hend parts)

end

end Clause
end RecordFilter
