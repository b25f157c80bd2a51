import RecordFilter.Text.Matching
/-!
# What the patterns of a text accept

A pattern made of a text, in either notation, is read back as the characters of the text between
the parts that the two ends bring along. So both notations accept the subjects in which the text
occurs, whatever characters it contains and however characters are compared.

## Main statements

* `readLike?_likePattern`, `readRegex?_regexPattern` — the parts of a pattern.
* `likeAccepts_likeParts_iff`, `regexAccepts_regexParts_iff` — what the parts accept.
-/
namespace RecordFilter.Text

/-! ## Reading -/

theorem readLike?_escapeLikeChars (cs rest : List Char) :
    readLike? (escapeLikeChars cs ++ rest) =
      (readLike? rest).map (cs.map LikePart.char ++ ·) := by
  induction cs with
  | nil => cases h : readLike? rest <;> simp [escapeLikeChars, h]
  | cons c cs ih =>
    have hcons : escapeLikeChars (c :: cs) = escapeLikeChar c ++ escapeLikeChars cs := rfl
    by_cases hc : isLikeSpecial c = true
    · simp [hcons, escapeLikeChar, hc, readLike?, ih, Function.comp_def]
    · have hne : c ≠ '\\' ∧ c ≠ '%' ∧ c ≠ '_' := by simpa [isLikeSpecial, and_assoc] using hc
      obtain ⟨h1, h2, h3⟩ := hne
      simp [hcons, escapeLikeChar, hc, readLike?, h1, h2, h3, ih, Function.comp_def]

/-- The parts of a SQL pattern for a text. -/
def likeParts (atStart atEnd : Bool) (cs : List Char) : List LikePart :=
  (if atStart then [] else [.anyRun]) ++ (cs.map .char ++ if atEnd then [] else [.anyRun])

theorem readLike?_likePattern (atStart atEnd : Bool) (s : String) :
    readLike? (likePattern atStart atEnd s).toList = some (likeParts atStart atEnd s.toList) := by
  have hrun (cs : List Char) : readLike? ('%' :: cs) = (readLike? cs).map (.anyRun :: ·) := by
    simp [readLike?]
  have hchars : readLike? (escapeLikeChars s.toList) = some (s.toList.map .char) := by
    simpa [readLike?] using readLike?_escapeLikeChars s.toList []
  cases atStart <;> cases atEnd <;>
    simp [likePattern, likeParts, readLike?_escapeLikeChars, hrun, hchars, readLike?]

theorem readRegex?_escapeRegexChars (cs rest : List Char) :
    readRegex? (escapeRegexChars cs ++ rest) =
      (readRegex? rest).map (cs.map RegexPart.char ++ ·) := by
  induction cs with
  | nil => cases h : readRegex? rest <;> simp [escapeRegexChars, h]
  | cons c cs ih =>
    have hcons : escapeRegexChars (c :: cs) = escapeRegexChar c ++ escapeRegexChars cs := rfl
    by_cases hc : c ∈ regexSpecials
    · have hplain : regexSpecials.all (fun c => c ≠ 'z' && !c.isAlphanum) = true := by decide
      have hc' := List.all_eq_true.1 hplain c hc
      simp only [Bool.and_eq_true, decide_eq_true_eq, Bool.not_eq_true'] at hc'
      obtain ⟨h1, h2⟩ := hc'
      simp [hcons, escapeRegexChar, hc, readRegex?, h1, h2, ih, Function.comp_def]
    · have hspecial : '\\' ∈ regexSpecials ∧ '^' ∈ regexSpecials := by decide
      have h1 : c ≠ '\\' := fun h => hc (h ▸ hspecial.1)
      have h2 : c ≠ '^' := fun h => hc (h ▸ hspecial.2)
      simp [hcons, escapeRegexChar, hc, readRegex?, h1, h2, ih, Function.comp_def]

/-- The parts of a regular expression for a text. -/
def regexParts (atStart atEnd : Bool) (cs : List Char) : List RegexPart :=
  (if atStart then [.start] else []) ++ (cs.map .char ++ if atEnd then [.finish] else [])

theorem readRegex?_regexPattern (atStart atEnd : Bool) (s : String) :
    readRegex? (regexPattern atStart atEnd s).toList =
      some (regexParts atStart atEnd s.toList) := by
  have hstart (cs : List Char) : readRegex? ('^' :: cs) = (readRegex? cs).map (.start :: ·) := by
    simp [readRegex?]
  have hfinish : readRegex? ['\\', 'z'] = some [.finish] := by simp [readRegex?]
  have hchars : readRegex? (escapeRegexChars s.toList) = some (s.toList.map .char) := by
    simpa [readRegex?] using readRegex?_escapeRegexChars s.toList []
  cases atStart <;> cases atEnd <;>
    simp [regexPattern, regexParts, readRegex?_escapeRegexChars, hstart, hfinish, hchars]

/-! ## Accepting -/

variable {same : Char → Char → Bool} {P : List Char → Prop}

/-- The subject starts with the text, and what follows it has a property. -/
def StartsWith (same : Char → Char → Bool) (cs : List Char) (P : List Char → Prop)
    (subject : List Char) : Prop :=
  ∃ middle after, subject = middle ++ after ∧ agree same cs middle = true ∧ P after

@[simp] theorem startsWith_nil (subject : List Char) :
    StartsWith same [] P subject ↔ P subject := by
  constructor
  · rintro ⟨middle, after, rfl, hagree, h⟩
    cases middle with
    | nil => exact h
    | cons _ _ => simp [agree] at hagree
  · exact fun h => ⟨[], subject, rfl, rfl, h⟩

@[simp] theorem not_startsWith_cons_nil (c : Char) (cs : List Char) :
    ¬ StartsWith same (c :: cs) P [] := by
  rintro ⟨middle, after, happ, hagree, -⟩
  obtain ⟨rfl, rfl⟩ := List.append_eq_nil_iff.1 happ.symm
  simp [agree] at hagree

@[simp] theorem startsWith_cons_cons (c s : Char) (cs subject : List Char) :
    StartsWith same (c :: cs) P (s :: subject) ↔
      same c s = true ∧ StartsWith same cs P subject := by
  constructor
  · rintro ⟨middle, after, happ, hagree, h⟩
    cases middle with
    | nil => simp [agree] at hagree
    | cons m middle =>
      obtain ⟨rfl, rfl⟩ := List.cons.inj happ
      simp only [agree, Bool.and_eq_true] at hagree
      exact ⟨hagree.1, middle, after, rfl, hagree.2, h⟩
  · rintro ⟨hsame, middle, after, rfl, hagree, h⟩
    exact ⟨s :: middle, after, rfl, by simp [agree, hsame, hagree], h⟩

/-- A text that is tied to the start occurs if the subject starts with it. -/
theorem occurs_atStart_iff (atEnd : Bool) (cs subject : List Char) :
    Occurs same true atEnd cs subject ↔
      StartsWith same cs (fun after => atEnd = true → after = []) subject := by
  constructor
  · rintro ⟨before, middle, after, h, hagree, hstart, hend⟩
    obtain rfl := hstart rfl
    exact ⟨middle, after, h, hagree, hend⟩
  · rintro ⟨middle, after, h, hagree, hend⟩
    exact ⟨[], middle, after, h, hagree, fun _ => rfl, hend⟩

/-- Any other text occurs if the subject, cut somewhere, goes on with it. -/
theorem occurs_anywhere_iff (atEnd : Bool) (cs subject : List Char) :
    Occurs same false atEnd cs subject ↔
      ∃ before after, subject = before ++ after ∧
        StartsWith same cs (fun after => atEnd = true → after = []) after := by
  constructor
  · rintro ⟨before, middle, after, h, hagree, -, hend⟩
    exact ⟨before, _, h, middle, after, rfl, hagree, hend⟩
  · rintro ⟨before, _, h, middle, after, rfl, hagree, hend⟩
    exact ⟨before, middle, after, h, hagree, by simp, hend⟩

theorem likeAccepts_chars_iff (cs : List Char) (parts : List LikePart) (subject : List Char) :
    likeAccepts same (cs.map .char ++ parts) subject = true ↔
      StartsWith same cs (fun after => likeAccepts same parts after = true) subject := by
  induction cs generalizing subject with
  | nil => simp
  | cons c cs ih => cases subject <;> simp [likeAccepts, ih]

theorem likeAccepts_anyRun_iff (parts : List LikePart) (subject : List Char) :
    likeAccepts same (.anyRun :: parts) subject = true ↔
      ∃ before after, subject = before ++ after ∧ likeAccepts same parts after = true := by
  induction subject with
  | nil =>
    simp only [likeAccepts]
    constructor
    · exact fun h => ⟨[], [], rfl, h⟩
    · rintro ⟨before, after, happ, h⟩
      obtain ⟨rfl, rfl⟩ := List.append_eq_nil_iff.1 happ.symm
      exact h
  | cons s subject ih =>
    simp only [likeAccepts, Bool.or_eq_true, ih]
    constructor
    · rintro (h | ⟨before, after, rfl, h⟩)
      · exact ⟨[], s :: subject, rfl, h⟩
      · exact ⟨s :: before, after, rfl, h⟩
    · rintro ⟨before, after, happ, h⟩
      cases before with
      | nil => exact Or.inl (by simpa [happ] using h)
      | cons b before =>
        obtain ⟨rfl, rfl⟩ := List.cons.inj happ
        exact Or.inr ⟨before, after, rfl, h⟩

/-- The run at the end of a pattern that is not tied there accepts what is left. -/
theorem likeAccepts_ending_iff (atEnd : Bool) (subject : List Char) :
    likeAccepts same (if atEnd then [] else [.anyRun]) subject = true ↔
      (atEnd = true → subject = []) := by
  cases atEnd with
  | true => simp [likeAccepts]
  | false =>
    simp only [Bool.false_eq_true, if_false, false_imp_iff, iff_true, likeAccepts_anyRun_iff]
    exact ⟨subject, [], by simp, by simp [likeAccepts]⟩

/-- A SQL pattern of a text accepts the subjects in which the text occurs. -/
theorem likeAccepts_likeParts_iff (atStart atEnd : Bool) (cs subject : List Char) :
    likeAccepts same (likeParts atStart atEnd cs) subject = true ↔
      Occurs same atStart atEnd cs subject := by
  cases atStart with
  | true =>
    simp [likeParts, likeAccepts_chars_iff, likeAccepts_ending_iff, occurs_atStart_iff]
  | false =>
    simp [likeParts, likeAccepts_anyRun_iff, likeAccepts_chars_iff, likeAccepts_ending_iff,
      occurs_anywhere_iff]

/-- Without a tie to the start, it does not matter whether the start has been passed. -/
theorem regexFits_eq_of_not_mem {parts : List RegexPart} (hparts : .start ∉ parts)
    (atStart : Bool) (subject : List Char) :
    regexFits same atStart parts subject = regexFits same false parts subject := by
  induction parts generalizing subject with
  | nil => simp [regexFits]
  | cons part parts ih =>
    have hrest : RegexPart.start ∉ parts := fun h => hparts (List.mem_cons_of_mem _ h)
    cases part with
    | start => simp at hparts
    | finish => simp [regexFits, ih hrest]
    | char p => cases subject <;> simp [regexFits]

theorem regexFits_chars_iff (cs : List Char) (parts : List RegexPart) (subject : List Char) :
    regexFits same false (cs.map .char ++ parts) subject = true ↔
      StartsWith same cs (fun after => regexFits same false parts after = true) subject := by
  induction cs generalizing subject with
  | nil => simp
  | cons c cs ih => cases subject <;> simp [regexFits, ih]

theorem regexFits_ending_iff (atEnd : Bool) (subject : List Char) :
    regexFits same false (if atEnd then [.finish] else []) subject = true ↔
      (atEnd = true → subject = []) := by
  cases atEnd <;> simp [regexFits]

theorem regexFitsLater_iff (parts : List RegexPart) (subject : List Char) :
    regexFitsLater same parts subject = true ↔
      ∃ before after, subject = before ++ after ∧ before ≠ [] ∧
        regexFits same false parts after = true := by
  induction subject with
  | nil =>
    simp only [regexFitsLater, Bool.false_eq_true, false_iff]
    rintro ⟨before, after, happ, hne, -⟩
    exact hne (List.append_eq_nil_iff.1 happ.symm).1
  | cons s subject ih =>
    simp only [regexFitsLater, Bool.or_eq_true, ih]
    constructor
    · rintro (h | ⟨before, after, rfl, -, h⟩)
      · exact ⟨[s], subject, rfl, by simp, h⟩
      · exact ⟨s :: before, after, rfl, by simp, h⟩
    · rintro ⟨before, after, happ, hne, h⟩
      cases before with
      | nil => exact absurd rfl hne
      | cons b before =>
        obtain ⟨rfl, rfl⟩ := List.cons.inj happ
        cases before with
        | nil => exact Or.inl h
        | cons b' before => exact Or.inr ⟨b' :: before, after, rfl, by simp, h⟩

/-- A regular expression of a text accepts the subjects in which the text occurs. -/
theorem regexAccepts_regexParts_iff (atStart atEnd : Bool) (cs subject : List Char) :
    regexAccepts same (regexParts atStart atEnd cs) subject = true ↔
      Occurs same atStart atEnd cs subject := by
  have hchars : RegexPart.start ∉ cs.map .char ++ if atEnd then [.finish] else [] := by
    cases atEnd <;> simp
  have hfits (subject : List Char) :
      regexFits same false (cs.map .char ++ if atEnd then [.finish] else []) subject = true ↔
        StartsWith same cs (fun after => atEnd = true → after = []) subject := by
    simp only [regexFits_chars_iff, regexFits_ending_iff]
  rw [regexAccepts, Bool.or_eq_true, regexFitsLater_iff]
  cases atStart with
  | true =>
    simp only [regexParts, if_true, List.cons_append, List.nil_append, regexFits, Bool.true_and,
      Bool.false_and, regexFits_eq_of_not_mem hchars, hfits, occurs_atStart_iff]
    simp
  | false =>
    simp only [regexParts, Bool.false_eq_true, if_false, List.nil_append,
      regexFits_eq_of_not_mem hchars true, hfits, occurs_anywhere_iff]
    constructor
    · rintro (h | ⟨before, after, happ, -, h⟩)
      · exact ⟨[], subject, rfl, h⟩
      · exact ⟨before, after, happ, h⟩
    · rintro ⟨before, after, happ, h⟩
      by_cases hne : before = []
      · exact Or.inl (by simpa [happ, hne] using h)
      · exact Or.inr ⟨before, after, happ, hne, h⟩

end RecordFilter.Text
