import RecordFilter.Proofs.Sql.PlaceholderReading
/-!
# Readers of texts with parameters

Readers take a text and a list of parameters from the front. A reader that takes the text of a
thing, together with its parameters, gives the thing back whatever follows; such readers are put
together like the texts are.

## Main definitions

* `Reader` — readers of a text and a list of parameters.
* `Ends` — texts that may follow a name or a placeholder.
* `Reader.Takes` — a reader takes a text and parameters and gives a result.

## Main statements

* `Reader.Takes.bind`, `Reader.takes_skip_bind`, `Reader.takes_word_bind` — readers in sequence.
* `Reader.takes_column`, `Reader.takes_parameter`, `Reader.takes_parameters` — names and parameters.
-/
namespace RecordFilter

structure Input where
  text : List Char
  values : List SqlValue

abbrev Reader := StateT Input Option

/-- A text that may follow a name or a placeholder. -/
def Ends (cs : List Char) : Prop := ∀ c ∈ cs.head?, c ∈ [' ', ')', ',']

@[simp] theorem ends_nil : Ends [] := by simp [Ends]

@[simp] theorem ends_cons {c : Char} {cs : List Char} :
    Ends (c :: cs) ↔ c ∈ [' ', ')', ','] := by simp [Ends]

theorem Ends.endsNumber {cs : List Char} (h : Ends cs) : Dialect.EndsNumber cs := by
  intro c hc
  have hmem := h c hc
  revert hmem
  simp only [List.mem_cons, List.not_mem_nil, or_false]
  rintro (rfl | rfl | rfl) <;> rfl

theorem Ends.ne_quote {cs : List Char} (h : Ends cs) (d : Dialect) :
    ∀ c ∈ cs.head?, c ≠ d.quote := by
  intro c hc
  have hmem := h c hc
  revert hmem
  simp only [List.mem_cons, List.not_mem_nil, or_false]
  rintro (rfl | rfl | rfl) <;> cases d <;> decide

namespace Reader

variable {α β : Type} {text text' : List Char} {values values' : List SqlValue}

/-- The reader takes this text and these parameters from the front and gives this result. -/
def Takes (r : Reader α) (text : List Char) (values : List SqlValue) (a : α) : Prop :=
  ∀ rest ps, Ends rest → r.run ⟨text ++ rest, values ++ ps⟩ = some (a, ⟨rest, ps⟩)

/-! ## Sequences -/

theorem Takes.bind {r : Reader α} {f : α → Reader β} {a : α} {b : β}
    (hr : r.Takes text values a) (hf : (f a).Takes text' values' b)
    (hends : ∀ rest, Ends rest → Ends (text' ++ rest)) :
    Takes (r >>= f) (text ++ text') (values ++ values') b := by
  intro rest ps hrest
  rw [StateT.run_bind, List.append_assoc, List.append_assoc, hr _ _ (hends rest hrest)]
  exact hf rest ps hrest

theorem Takes.bind_pure {r : Reader α} {a : α} (hr : r.Takes text values a) (f : α → β) :
    Takes (r >>= fun x => pure (f x)) text values (f a) := by
  intro rest ps hrest
  rw [StateT.run_bind, hr rest ps hrest]
  rfl

theorem takes_pure (a : α) : Takes (pure a : Reader α) [] [] a := fun _ _ _ => rfl

/-! ## Fixed texts -/

/-- What follows a text that stands in front. -/
def after? : List Char → List Char → Option (List Char)
  | [], rest => some rest
  | _ :: _, [] => none
  | a :: cs, c :: rest => if a = c then after? cs rest else none

/-- The text in front, or failure. -/
def skip (cs : List Char) : Reader Unit := fun input =>
  (after? cs input.text).map fun rest => ((), { input with text := rest })

/-- Whether the text is in front; it is taken if it is. -/
def accepts (cs : List Char) : Reader Bool := fun input =>
  match after? cs input.text with
  | some rest => some (true, { input with text := rest })
  | none => some (false, input)

/-- What stands before the next blank, which is taken with it. -/
def word : Reader String := fun input =>
  some (String.ofList (input.text.takeWhile (· ≠ ' ')),
    { input with text := afterQuote ' ' input.text })

/-- The next character, which is left where it is. -/
def peek : Reader Char := fun input => input.text.head?.map fun c => (c, input)

theorem after?_append (cs rest : List Char) : after? cs (cs ++ rest) = some rest := by
  induction cs with
  | nil => rfl
  | cons c cs ih => simpa [after?] using ih

theorem takes_skip_bind {r : Reader α} {a : α} (cs : List Char) (hr : r.Takes text values a) :
    Takes (skip cs >>= fun _ => r) (cs ++ text) values a := by
  intro rest ps hrest
  have hskip : (skip cs).run ⟨cs ++ (text ++ rest), values ++ ps⟩ =
      some ((), ⟨text ++ rest, values ++ ps⟩) := by
    simp [skip, StateT.run, after?_append]
  rw [StateT.run_bind, List.append_assoc, hskip]
  exact hr rest ps hrest

theorem takes_accepts_bind {f : Bool → Reader α} {a : α} (cs : List Char)
    (hf : (f true).Takes text values a) : Takes (accepts cs >>= f) (cs ++ text) values a := by
  intro rest ps hrest
  have haccepts : (accepts cs).run ⟨cs ++ (text ++ rest), values ++ ps⟩ =
      some (true, ⟨text ++ rest, values ++ ps⟩) := by
    simp [accepts, StateT.run, after?_append]
  rw [StateT.run_bind, List.append_assoc, haccepts]
  exact hf rest ps hrest

theorem takes_rejects_bind {f : Bool → Reader α} {a : α} {cs : List Char}
    (hcs : ∀ rest, Ends rest → after? cs (text ++ rest) = none)
    (hf : (f false).Takes text values a) : Takes (accepts cs >>= f) text values a := by
  intro rest ps hrest
  have haccepts : (accepts cs).run ⟨text ++ rest, values ++ ps⟩ =
      some (false, ⟨text ++ rest, values ++ ps⟩) := by
    simp [accepts, StateT.run, hcs rest hrest]
  rw [StateT.run_bind, haccepts]
  exact hf rest ps hrest

theorem takes_word_bind {f : String → Reader α} {a : α} (w : String) (hw : ' ' ∉ w.toList)
    (hf : (f w).Takes text values a) : Takes (word >>= f) (w.toList ++ ' ' :: text) values a := by
  intro rest ps hrest
  have hall : ∀ c ∈ w.toList, decide (c ≠ ' ') = true := fun c hc =>
    decide_eq_true fun he => hw (he ▸ hc)
  have hword : word.run ⟨w.toList ++ ' ' :: (text ++ rest), values ++ ps⟩ =
      some (w, ⟨text ++ rest, values ++ ps⟩) := by
    simp only [word, StateT.run, afterQuote, List.takeWhile_append_of_pos hall,
      List.dropWhile_append_of_pos hall]
    simp
  rw [StateT.run_bind, List.append_assoc, List.cons_append, hword]
  exact hf rest ps hrest

theorem takes_peek_bind {f : Char → Reader α} {a : α} {c : Char}
    (hf : (f c).Takes (c :: text) values a) : Takes (peek >>= f) (c :: text) values a := by
  intro rest ps hrest
  rw [StateT.run_bind]
  exact hf rest ps hrest

/-! ## Names -/

/-- What stands inside the quotes and what follows them; a doubled quote stands for itself. -/
def unquote? (q : Char) : List Char → Option (List Char × List Char)
  | [] => none
  | [c] => if c = q then some ([], []) else none
  | c :: c' :: rest =>
    if c = q then
      if c' = q then (unquote? q rest).map fun (cs, rest) => (q :: cs, rest)
      else some ([], c' :: rest)
    else (unquote? q (c' :: rest)).map fun (cs, rest) => (c :: cs, rest)

def name (d : Dialect) : Reader String := fun input =>
  match input.text with
  | [] => none
  | _ :: cs =>
    (unquote? d.quote cs).map fun (name, rest) => (String.ofList name, { input with text := rest })

/-- The column that has a name behind a point, or the first name alone. -/
def columnFrom (d : Dialect) (first : String) : Bool → Reader Column
  | true => return ⟨some first, ← name d⟩
  | false => return ⟨none, first⟩

def column (d : Dialect) : Reader Column := do
  let first ← name d
  let qualified ← accepts ['.']
  columnFrom d first qualified

theorem unquote?_cons_of_ne {q c : Char} (h : c ≠ q) (cs : List Char) :
    unquote? q (c :: cs) = (unquote? q cs).map fun (name, rest) => (c :: name, rest) := by
  cases cs with
  | nil => simp [unquote?, h]
  | cons c' cs => simp [unquote?, h]

theorem unquote?_append {q : Char} (cs : List Char) {rest : List Char}
    (hrest : ∀ c ∈ rest.head?, c ≠ q) :
    unquote? q ((cs.flatMap fun c => if c = q then [q, q] else [c]) ++ q :: rest) =
      some (cs, rest) := by
  induction cs with
  | nil =>
    cases rest with
    | nil => simp [unquote?]
    | cons c rest =>
      have hc : c ≠ q := hrest c rfl
      simp [unquote?, hc]
  | cons c cs ih =>
    by_cases hc : c = q
    · subst hc
      simp only [List.flatMap_cons, if_true, List.cons_append, List.nil_append]
      rw [unquote?, if_pos rfl, if_pos rfl, ih]
      rfl
    · simp only [List.flatMap_cons, hc, if_false, List.cons_append, List.nil_append]
      rw [unquote?_cons_of_ne hc, ih]
      rfl

theorem run_name (d : Dialect) (s : String) {rest : List Char} (ps : List SqlValue)
    (hrest : ∀ c ∈ rest.head?, c ≠ d.quote) :
    (name d).run ⟨d.quoteName s ++ rest, ps⟩ = some (s, ⟨rest, ps⟩) := by
  have hquoted : d.quoteName s ++ rest = d.quote ::
      ((s.toList.flatMap fun c => if c = d.quote then [d.quote, d.quote] else [c]) ++
        d.quote :: rest) := by
    simp [Dialect.quoteName, Dialect.quoteWith]
  rw [hquoted]
  simp [name, StateT.run, unquote?_append s.toList hrest]

theorem takes_name (d : Dialect) (s : String) : (name d).Takes (d.quoteName s) [] s :=
  fun _ ps hrest => run_name d s ps (hrest.ne_quote d)

theorem takes_column (d : Dialect) (c : Column) :
    (column d).Takes (Clause.columnText d c) [] c := by
  obtain ⟨qualifier, field⟩ := c
  intro rest ps hrest
  rw [column, StateT.run_bind]
  cases qualifier with
  | none =>
    have hpoint : ∀ cs, Ends cs → after? ['.'] ([] ++ cs) = none := by
      intro cs hcs
      cases cs with
      | nil => rfl
      | cons c cs =>
        have hc : '.' ≠ c := fun he => absurd (ends_cons.1 (he ▸ hcs)) (by decide)
        simp [after?, hc]
    have hmore : Takes (accepts ['.'] >>= columnFrom d field) [] [] ⟨none, field⟩ :=
      takes_rejects_bind hpoint (takes_pure _)
    rw [Clause.columnText, run_name d field _ (hrest.ne_quote d)]
    exact hmore rest ps hrest
  | some table =>
    have hmore : Takes (accepts ['.'] >>= columnFrom d table) (['.'] ++ d.quoteName field) []
        ⟨some table, field⟩ :=
      takes_accepts_bind ['.'] ((takes_name d field).bind_pure _)
    have hpoint : ∀ c ∈ ('.' :: (d.quoteName field ++ rest)).head?, c ≠ d.quote := by
      cases d <;> simp [Dialect.quote]
    rw [Clause.columnText, List.append_assoc, List.cons_append, run_name d table _ hpoint]
    exact hmore rest ps hrest

/-! ## Parameters -/

theorem mark_placeholder (d : Dialect) (n : Nat) :
    ')' ∉ d.placeholder n ∧ (d.placeholder n).count d.mark = 1 := by
  cases d with
  | postgres =>
    have hdigit (c : Char) (hc : c.isDigit = false) : c ∉ Text.natDigits n := fun hmem => by
      rw [Text.isDigit_of_mem_natDigits hmem] at hc
      cases hc
    refine ⟨?_, ?_⟩
    · simp [Dialect.placeholder, hdigit ')' rfl]
    · simp [Dialect.placeholder, Dialect.mark, List.count_eq_zero.2 (hdigit '$' rfl)]
  | sqlite | duckdb | clickhouse => exact ⟨by simp [Dialect.placeholder], rfl⟩

/-- A list of placeholders does not close the parenthesis and has one mark for each. -/
theorem marks_placeholders (d : Dialect) (used n : Nat) :
    ')' ∉ [',', ' '].intercalate (Clause.placeholders d used n) ∧
      ([',', ' '].intercalate (Clause.placeholders d used n)).count d.mark = n := by
  induction n generalizing used with
  | zero => exact ⟨List.not_mem_nil, rfl⟩
  | succ n ih =>
    obtain ⟨hclose, hcount⟩ := mark_placeholder d (used + 1)
    obtain ⟨hcloses, hcounts⟩ := ih (used + 1)
    cases n with
    | zero => simpa [Clause.placeholders] using ⟨hclose, hcount⟩
    | succ n =>
      have hseparator : [',', ' '].count d.mark = 0 := by cases d <;> rfl
      simp only [Clause.placeholders] at hcloses hcounts ⊢
      rw [List.intercalate_cons_cons]
      refine ⟨?_, ?_⟩
      · simp [hclose, hcloses]
      · rw [List.count_append, List.count_append, hcount, hcounts, hseparator]
        omega

/-- A placeholder, with the next parameter. -/
def parameter (d : Dialect) : Reader SqlValue := fun input =>
  match input.text, input.values with
  | _ :: rest, v :: vs => some (v, ⟨d.afterMark rest, vs⟩)
  | _, _ => none

theorem takes_parameter (d : Dialect) (n : Nat) (v : SqlValue) :
    (parameter d).Takes (d.placeholder n) [v] v := by
  intro rest ps hrest
  obtain ⟨ds, hds, hread⟩ := d.placeholder_eq_mark_cons n
  simp [parameter, StateT.run, hds, (hread rest hrest.endsNumber).2]

/-- As many parameters as there are placeholders before the closing parenthesis. -/
def parameters (d : Dialect) : Reader (List SqlValue) := fun input =>
  let n := (input.text.takeWhile (· ≠ ')')).count d.mark
  some (input.values.take n, ⟨afterQuote ')' input.text, input.values.drop n⟩)

theorem takes_parameters (d : Dialect) (used : Nat) (vs : List SqlValue) :
    (parameters d).Takes
      ([',', ' '].intercalate (Clause.placeholders d used vs.length) ++ [')']) vs vs := by
  intro rest ps _
  obtain ⟨hclose, hcount⟩ := marks_placeholders d used vs.length
  have hall : ∀ c ∈ [',', ' '].intercalate (Clause.placeholders d used vs.length),
      decide (c ≠ ')') = true := fun c hc => decide_eq_true fun he => hclose (he ▸ hc)
  simp only [parameters, StateT.run, afterQuote, List.append_assoc,
    List.takeWhile_append_of_pos hall, List.dropWhile_append_of_pos hall]
  simp [hcount]

end Reader
end RecordFilter
