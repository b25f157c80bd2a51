import Mathlib.Data.List.Chain
import RecordFilter.Proofs.Sql.PlaceholderReading
import RecordFilter.Proofs.Sql.ProperClauses
/-!
# What clauses write outside names

An empty list of values would show as `()` and a constant condition as `1=`, outside the names that
a text quotes. Neither pair of characters arises within a piece of the text of a proper clause, nor
where two pieces meet: no piece begins with a closing parenthesis or an equals sign, except for the
closing of a parenthesis, and the piece before that does not end with an open one.

## Main definitions

* `Dialect.outsideNames` — a text without what stands in its names.
* `IsTidy` — texts without the two pairs that may stand behind any other text.
* `Dialect.Whole` — texts that are tidy outside names, and may be closed.

## Main statements

* `Clause.whole_chars` — the text of a proper clause.
* `Clause.text_excludes` — what it does not contain.
-/
namespace RecordFilter

namespace Dialect

/-- What stands outside quotes. Of a quoted run the first quote is left; a doubled quote ends a run
and starts the next. -/
def outsideQuotes (q : Char) : (inside : Bool) → List Char → List Char
  | _, [] => []
  | false, c :: rest => c :: outsideQuotes q (c = q) rest
  | true, c :: rest => outsideQuotes q (c ≠ q) rest

/-- A text without what stands in its names. -/
def outsideNames (d : Dialect) (text : List Char) : List Char := outsideQuotes d.quote false text

/-- Outside names the text is this, whatever follows it. -/
def Shows (d : Dialect) (text shown : List Char) : Prop :=
  ∀ rest, d.outsideNames (text ++ rest) = shown ++ d.outsideNames rest

variable {d : Dialect} {text text' shown shown' : List Char}

theorem Shows.outsideNames_eq (h : d.Shows text shown) : d.outsideNames text = shown := by
  have hnil : d.outsideNames [] = [] := rfl
  simpa [hnil] using h []

theorem Shows.append (h : d.Shows text shown) (h' : d.Shows text' shown') :
    d.Shows (text ++ text') (shown ++ shown') := by
  intro rest
  rw [List.append_assoc, h, h', List.append_assoc]

/-- A text without quotes is left as it is. -/
theorem shows_of_not_mem (h : d.quote ∉ text) : d.Shows text text := by
  intro rest
  induction text with
  | nil => rfl
  | cons c text ih =>
    simp only [List.mem_cons, not_or] at h
    have hrest := ih h.2
    simp only [outsideNames] at hrest
    simp [outsideNames, outsideQuotes, Ne.symm h.1, hrest]

/-- Within a name, each doubled quote ends a run and starts the next. -/
theorem outsideQuotes_escaped (q : Char) (cs : List Char) : ∃ n, ∀ rest,
    outsideQuotes q true ((cs.flatMap fun c => if c = q then [q, q] else [c]) ++ q :: rest) =
      List.replicate n q ++ outsideQuotes q false rest := by
  induction cs with
  | nil => exact ⟨0, fun rest => by simp [outsideQuotes]⟩
  | cons c cs ih =>
    obtain ⟨n, hn⟩ := ih
    by_cases h : c = q
    · refine ⟨n + 1, fun rest => ?_⟩
      simp [h, outsideQuotes, hn, List.replicate_succ]
    · refine ⟨n, fun rest => ?_⟩
      simp [h, outsideQuotes, hn]

/-- Of a name its quotes are left. -/
theorem shows_quoteName (d : Dialect) (name : String) :
    ∃ n, d.Shows (d.quoteName name) (List.replicate (n + 1) d.quote) := by
  obtain ⟨n, hn⟩ := outsideQuotes_escaped d.quote name.toList
  refine ⟨n, fun rest => ?_⟩
  simp [outsideNames, quoteName, quoteWith, outsideQuotes, hn, List.replicate_succ]

end Dialect

/-! ## Tidy texts -/

/-- The second character is not one that would close an empty list or a constant here. -/
def MayFollow (a b : Char) : Prop := ¬ (a = '(' ∧ b = ')') ∧ ¬ (a = '1' ∧ b = '=')

instance : DecidableRel MayFollow := fun a b =>
  inferInstanceAs (Decidable (¬ (a = '(' ∧ b = ')') ∧ ¬ (a = '1' ∧ b = '=')))

/-- A text without such pairs that does not complete one with what stands before it. -/
def IsTidy (cs : List Char) : Prop :=
  cs.IsChain MayFollow ∧ cs.head? ≠ some ')' ∧ cs.head? ≠ some '='

instance (cs : List Char) : Decidable (IsTidy cs) :=
  inferInstanceAs (Decidable (cs.IsChain MayFollow ∧ cs.head? ≠ some ')' ∧ cs.head? ≠ some '='))

/-- A text that does not end with an open parenthesis. -/
def IsClosed (cs : List Char) : Prop := ∃ c ∈ cs.getLast?, c ≠ '('

variable {cs cs' : List Char}

theorem IsTidy.append (h : IsTidy cs) (h' : IsTidy cs') : IsTidy (cs ++ cs') := by
  refine ⟨List.isChain_append.2 ⟨h.1, h'.1, fun a _ b hb => ?_⟩, ?_⟩
  · obtain ⟨hclose, hequals⟩ := h'.2
    rw [hb] at hclose hequals
    exact ⟨fun hpair => hclose (congrArg some hpair.2),
      fun hpair => hequals (congrArg some hpair.2)⟩
  · cases cs with
    | nil => exact h'.2
    | cons first cs => exact h.2

theorem IsClosed.append_left (h : IsClosed cs') (cs : List Char) : IsClosed (cs ++ cs') := by
  obtain ⟨c, hc, hopen⟩ := h
  exact ⟨c, by simp_all [List.getLast?_append], hopen⟩

/-- The closing parenthesis may stand behind a text that has closed its own. -/
theorem IsTidy.close (h : IsTidy cs) (hclosed : IsClosed cs) : IsTidy (cs ++ [')']) := by
  obtain ⟨last, hlast, hopen⟩ := hclosed
  refine ⟨List.isChain_append.2 ⟨h.1, List.isChain_singleton _, fun a ha b hb => ?_⟩, ?_⟩
  · obtain rfl : b = ')' := by simpa using hb.symm
    obtain rfl : a = last := Option.mem_unique ha hlast
    exact ⟨fun hpair => hopen hpair.1, fun hpair => absurd hpair.2 (by decide)⟩
  · cases cs with
    | nil => simp at hlast
    | cons first cs => exact h.2

/-- Characters that occur in neither pair make up tidy texts. -/
theorem isTidy_of_forall (h : ∀ c ∈ cs, c ≠ ')' ∧ c ≠ '=') : IsTidy cs := by
  induction cs with
  | nil => exact ⟨List.isChain_nil, by simp⟩
  | cons c cs ih =>
    have hsingle : IsTidy [c] := ⟨List.isChain_singleton c, by simpa using h c List.mem_cons_self⟩
    exact hsingle.append (ih fun c' hc' => h c' (List.mem_cons_of_mem c hc'))

theorem isClosed_of_forall (hne : cs ≠ []) (h : ∀ c ∈ cs, c ≠ '(') : IsClosed cs := by
  refine ⟨cs.getLast hne, by simp [List.getLast?_eq_some_getLast hne], ?_⟩
  exact h _ (List.getLast_mem hne)

/-! ## Texts outside names -/

namespace Dialect

/-- Outside names the text is tidy. -/
def Tidy (d : Dialect) (text : List Char) : Prop := ∃ shown, d.Shows text shown ∧ IsTidy shown

/-- Outside names the text is tidy, and a closing parenthesis may follow. -/
def Whole (d : Dialect) (text : List Char) : Prop :=
  ∃ shown, d.Shows text shown ∧ IsTidy shown ∧ IsClosed shown

variable {d : Dialect} {text text' : List Char}

theorem Whole.tidy (h : d.Whole text) : d.Tidy text := by
  obtain ⟨shown, hshows, htidy, -⟩ := h
  exact ⟨shown, hshows, htidy⟩

theorem Tidy.append (h : d.Tidy text) (h' : d.Tidy text') : d.Tidy (text ++ text') := by
  obtain ⟨shown, hshows, htidy⟩ := h
  obtain ⟨shown', hshows', htidy'⟩ := h'
  exact ⟨_, hshows.append hshows', htidy.append htidy'⟩

theorem Tidy.append_whole (h : d.Tidy text) (h' : d.Whole text') : d.Whole (text ++ text') := by
  obtain ⟨shown, hshows, htidy⟩ := h
  obtain ⟨shown', hshows', htidy', hclosed⟩ := h'
  exact ⟨_, hshows.append hshows', htidy.append htidy', hclosed.append_left shown⟩

theorem Whole.close (h : d.Whole text) : d.Whole (text ++ [')']) := by
  obtain ⟨shown, hshows, htidy, hclosed⟩ := h
  have hquote : d.quote ∉ [')'] := by cases d <;> decide
  exact ⟨_, hshows.append (shows_of_not_mem hquote), htidy.close hclosed,
    ⟨')', by simp, by decide⟩⟩

theorem whole_of_forall (hne : text ≠ [])
    (h : ∀ c ∈ text, c ≠ d.quote ∧ c ≠ '(' ∧ c ≠ ')' ∧ c ≠ '=') : d.Whole text :=
  ⟨text, shows_of_not_mem fun hmem => (h _ hmem).1 rfl, isTidy_of_forall fun c hc => (h c hc).2.2,
    isClosed_of_forall hne fun c hc => (h c hc).2.1⟩

/-- Keywords are the same in and outside names. -/
theorem tidy_keyword (hword : IsKeyword text) (h : IsTidy text) : d.Tidy text :=
  ⟨text, shows_of_not_mem fun hmem => hword _ hmem d.quote_mem_markingChars, h⟩

theorem whole_keyword (hword : IsKeyword text) (h : IsTidy text) (hclosed : IsClosed text) :
    d.Whole text :=
  ⟨text, shows_of_not_mem fun hmem => hword _ hmem d.quote_mem_markingChars, h, hclosed⟩

theorem whole_quoteName (d : Dialect) (name : String) : d.Whole (d.quoteName name) := by
  obtain ⟨n, hshows⟩ := d.shows_quoteName name
  have hquote : d.quote ≠ '(' ∧ d.quote ≠ ')' ∧ d.quote ≠ '=' := by cases d <;> decide
  refine ⟨_, hshows, isTidy_of_forall fun c hc => ?_,
    isClosed_of_forall (by simp) fun c hc => ?_⟩ <;>
    obtain rfl := List.eq_of_mem_replicate hc
  · exact hquote.2
  · exact hquote.1

theorem whole_placeholder (d : Dialect) (n : Nat) : d.Whole (d.placeholder n) := by
  cases d with
  | postgres =>
    refine whole_of_forall (by simp [placeholder]) fun c hc => ?_
    rcases List.mem_cons.1 hc with rfl | hc
    · decide
    · have hdigit := Text.isDigit_of_mem_natDigits hc
      refine ⟨?_, ?_, ?_, ?_⟩ <;> rintro rfl <;> simp [quote] at hdigit
  | sqlite | duckdb | clickhouse =>
    have hmark (d : Dialect) : d.Whole ['?'] :=
      whole_of_forall (by simp) (by cases d <;> simp [quote])
    exact hmark _

theorem Whole.likeEscape (h : d.Whole text) : d.Whole (text ++ d.likeEscape) := by
  have hescape {d : Dialect} (hquote : d.quote ∉ " ESCAPE '\\'".toList) :
      d.Whole " ESCAPE '\\'".toList :=
    ⟨_, shows_of_not_mem hquote, by decide, ⟨'\'', by decide, by decide⟩⟩
  cases d with
  | clickhouse =>
    have hnone : clickhouse.likeEscape = [] := rfl
    rwa [hnone, List.append_nil]
  | sqlite | postgres | duckdb => exact h.tidy.append_whole (hescape (by decide))

variable {column : List Char}

/-- The search for a value in an array, whichever way a dialect writes it. -/
theorem whole_arrayContains (h : d.Whole column) (n : Nat) :
    d.Whole (d.arrayContains column n) := by
  have hparameter := d.whole_placeholder n
  have hcall {opening : List Char} (hopening : d.Tidy opening) :
      d.Whole (opening ++ (column ++ (", ".toList ++ (d.placeholder n ++ [')'])))) := by
    have hcomma : d.Tidy ", ".toList := tidy_keyword (by decide) (by decide)
    exact hopening.append_whole (h.tidy.append_whole (hcomma.append_whole hparameter.close))
  cases d with
  | postgres =>
    have hany : postgres.Tidy " = ANY(".toList := tidy_keyword (by decide) (by decide)
    rw [arrayContains_postgres]
    exact hparameter.tidy.append_whole (hany.append_whole h.close)
  | sqlite =>
    have hopening : sqlite.Tidy "EXISTS (SELECT 1 FROM json_each(".toList :=
      tidy_keyword (by decide) (by decide)
    have hwhere : sqlite.Tidy " WHERE value = ".toList := tidy_keyword (by decide) (by decide)
    have hsplit : sqlite.arrayContains column n = "EXISTS (SELECT 1 FROM json_each(".toList ++
        ((column ++ [')']) ++ (" WHERE value = ".toList ++ (sqlite.placeholder n ++ [')']))) := by
      rw [arrayContains_sqlite]
      simp
    rw [hsplit]
    exact hopening.append_whole
      (h.close.tidy.append_whole (hwhere.append_whole hparameter.close))
  | duckdb =>
    rw [arrayContains_duckdb]
    exact hcall (tidy_keyword (by decide) (by decide))
  | clickhouse =>
    rw [arrayContains_clickhouse]
    exact hcall (tidy_keyword (by decide) (by decide))

theorem whole_intercalate {separator : List Char} (hseparator : d.Tidy separator)
    {texts : List (List Char)} (hne : texts ≠ []) (h : ∀ text ∈ texts, d.Whole text) :
    d.Whole (separator.intercalate texts) := by
  induction texts with
  | nil => exact absurd rfl hne
  | cons text texts ih =>
    have hfirst := h text List.mem_cons_self
    cases texts with
    | nil => simpa using hfirst
    | cons next texts =>
      rw [List.intercalate_cons_cons]
      have hrest := ih (by simp) fun text' htext' => h text' (List.mem_cons_of_mem _ htext')
      exact (hfirst.tidy.append hseparator).append_whole hrest

/-- A whole text contains nothing that one of the two pairs stands in. -/
theorem Whole.excludes (h : d.Whole text) {word : List Char} (hword : ¬ word.IsChain MayFollow) :
    ¬ word <:+: d.outsideNames text := by
  obtain ⟨shown, hshows, htidy, -⟩ := h
  rw [hshows.outsideNames_eq]
  exact fun hpiece => hword <| List.IsChain.infix htidy.1 hpiece

end Dialect

/-! ## Texts of clauses -/

namespace Clause

open Dialect

variable {d : Dialect}

theorem whole_columnText (d : Dialect) (column : Column) : d.Whole (columnText d column) := by
  unfold columnText
  split
  · next table _ =>
    have hpoint : d.Tidy ['.'] := tidy_keyword (by decide) (by decide)
    exact (d.whole_quoteName table).tidy.append_whole
      (hpoint.append_whole (d.whole_quoteName column.name))
  · exact d.whole_quoteName column.name

theorem whole_placeholders (d : Dialect) (used : Nat) {n : Nat} (h : n ≠ 0) :
    d.Whole ([',', ' '].intercalate (placeholders d used n)) := by
  have hcomma : d.Tidy [',', ' '] := tidy_keyword (by decide) (by decide)
  rw [placeholders_eq_map]
  refine whole_intercalate hcomma (by simpa using h) fun text htext => ?_
  obtain ⟨m, -, rfl⟩ := List.mem_map.1 htext
  exact d.whole_placeholder m

theorem whole_joined {separator : String} (empty : String) (hseparator : d.Tidy separator.toList)
    {texts : List (List Char)} (hne : texts ≠ []) (h : ∀ text ∈ texts, d.Whole text) :
    d.Whole (joined separator empty texts) := by
  have hparts := whole_intercalate hseparator hne h
  have hopening : d.Tidy ['('] := tidy_keyword (by decide) (by decide)
  match texts with
  | [] => exact absurd rfl hne
  | [text] => exact h text List.mem_cons_self
  | first :: second :: texts => exact (hopening.append_whole hparts).close

theorem charsAll_ne_nil (d : Dialect) (used : Nat) {parts : List Clause}
    (h : 2 ≤ parts.length) : charsAll d used parts ≠ [] := by
  cases parts with
  | nil => simp at h
  | cons c rest => simp [charsAll]

mutual

/-- The text of a proper clause is tidy outside names. -/
theorem whole_chars (d : Dialect) (used : Nat) (c : Clause) (h : c.Each IsProper) :
    d.Whole (chars d used c) := by
  match c with
  | .compare column op v =>
    have hsymbol : d.Tidy (' ' :: op.symbol.toList) := by
      cases op <;> exact tidy_keyword (by decide) (by decide)
    have hblank : d.Tidy [' '] := tidy_keyword (by decide) (by decide)
    exact ((whole_columnText d column).tidy.append hsymbol).append_whole
      (hblank.append_whole (d.whole_placeholder _))
  | .like column anyCase pattern negated =>
    have hnot : d.Tidy (' ' :: notText negated) := by
      cases negated <;> exact tidy_keyword (by decide) (by decide)
    have hlike : d.Tidy (likeText d anyCase) :=
      tidy_keyword (isKeyword_likeText d anyCase) (by cases d <;> cases anyCase <;> decide)
    exact ((((whole_columnText d column).tidy.append hnot).append hlike).append_whole
      (d.whole_placeholder _)).likeEscape
  | .member column values negated =>
    have hnot : d.Tidy (' ' :: notText negated) := by
      cases negated <;> exact tidy_keyword (by decide) (by decide)
    have hin : d.Tidy "IN (".toList := tidy_keyword (by decide) (by decide)
    have hvalues : values ≠ [] := (each_leaf rfl).1 h
    exact ((((whole_columnText d column).tidy.append hnot).append hin).append_whole
      (whole_placeholders d used (by simpa using hvalues))).close
  | .between column low high =>
    have hbetween : d.Tidy " BETWEEN ".toList := tidy_keyword (by decide) (by decide)
    have hand : d.Tidy " AND ".toList := tidy_keyword (by decide) (by decide)
    exact ((((whole_columnText d column).tidy.append hbetween).append_whole
      (d.whole_placeholder _)).tidy.append hand).append_whole (d.whole_placeholder _)
  | .isNull column negated =>
    have his : d.Tidy " IS ".toList := tidy_keyword (by decide) (by decide)
    have hnot : d.Tidy (notText negated) := by
      cases negated <;> exact tidy_keyword (by decide) (by decide)
    have hnull : d.Whole "NULL".toList :=
      whole_keyword (by decide) (by decide) ⟨'L', rfl, by decide⟩
    exact (((whole_columnText d column).tidy.append his).append hnot).append_whole hnull
  | .contains column v => exact whole_arrayContains (whole_columnText d column) (used + 1)
  | .and parts =>
    obtain ⟨hlength, hparts⟩ := each_and.1 h
    exact whole_joined _ (tidy_keyword (by decide) (by decide))
      (charsAll_ne_nil d used hlength) (whole_charsAll d used parts hparts)
  | .or parts =>
    obtain ⟨hlength, hparts⟩ := each_or.1 h
    exact whole_joined _ (tidy_keyword (by decide) (by decide))
      (charsAll_ne_nil d used hlength) (whole_charsAll d used parts hparts)
  | .not part =>
    have hnot : d.Tidy "NOT (".toList := tidy_keyword (by decide) (by decide)
    exact (hnot.append_whole (whole_chars d used part (each_not.1 h).2)).close

theorem whole_charsAll (d : Dialect) (used : Nat) (parts : List Clause)
    (h : ∀ part ∈ parts, part.Each IsProper) :
    ∀ text ∈ charsAll d used parts, d.Whole text := by
  match parts with
  | [] => simp [charsAll]
  | c :: rest =>
    rw [List.forall_mem_cons] at h
    rw [charsAll, List.forall_mem_cons]
    exact ⟨whole_chars d used c h.1, whole_charsAll d _ rest h.2⟩

end

/-- What an empty list and what a condition that is always true or always false would show. -/
def emptyTexts : List String := ["IN ()", "1=1", "1=0"]

/-- The text of a proper clause has no empty list and no constant outside names. -/
theorem text_excludes {c : Clause} (h : c.Each IsProper) (d : Dialect) :
    ∀ word ∈ emptyTexts, ¬ word.toList <:+: d.outsideNames (c.text d).toList := by
  intro word hword
  rw [text, String.toList_ofList]
  refine (whole_chars d 0 c h).excludes ?_
  simp only [emptyTexts, List.mem_cons, List.not_mem_nil, or_false] at hword
  rcases hword with rfl | rfl | rfl <;> decide

end Clause
end RecordFilter
