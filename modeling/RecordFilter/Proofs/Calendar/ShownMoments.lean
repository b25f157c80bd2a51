import RecordFilter.Proofs.Calendar.WrittenMoments
import RecordFilter.Proofs.Filter.NamedDays
import RecordFilter.Proofs.Filter.WrittenCounts
/-!
# Instants read back by the clocks of a zone

The text of an instant with three digits of the fraction names its offset, so that every zone reads
it as the same instant, cut off to the millisecond, and its day is the one that the clocks show at
the instant itself. A leap second can be read back because it is the last second of a minute. By
clocks that are not whole minutes from UTC a text may also name a leap second within a minute of
UTC; its text is that of the second after it.

## Main definitions

* `Moment.shown` — the instant that the text of an instant names.

## Main statements

* `Moment.millisDigits_shown` — the two have the same text.
* `Zone.reads_back_millisText` — what is read from the text of an instant.
* `Zone.tokyo_leap_second_not_read_back` — a leap second within a minute.
-/
namespace RecordFilter

namespace Moment

variable {t : Moment}

/-- The instant that the text names: a leap second within a minute shows as the second after it. -/
def shown (t : Instant) : Instant :=
  if t.isLeapSecond && t.second % 60 ≠ 59 then ⟨t.second + 1, t.nano - nanosPerSecond⟩ else t

theorem IsProper.shown_eq (h : t.IsProper) : t.shown = t := by
  refine if_neg fun hwithin => ?_
  simp only [Bool.and_eq_true, decide_eq_true_eq] at hwithin
  exact hwithin.2 (h.leap hwithin.1)

theorem shown_of_not_isProper (hnano : t.nano < 2000000000) (h : ¬ t.IsProper) :
    t.isLeapSecond = true ∧ t.second % 60 ≠ 59 ∧
      t.shown = ⟨t.second + 1, t.nano - nanosPerSecond⟩ := by
  have hwithin : t.isLeapSecond = true ∧ t.second % 60 ≠ 59 := by
    by_contra hnot
    exact h ⟨hnano, fun hleap => not_not.1 fun hne => hnot ⟨hleap, hne⟩⟩
  exact ⟨hwithin.1, hwithin.2, if_pos (by simp [hwithin])⟩

/-- The second after is no leap second. -/
theorem not_isLeapSecond_shown (hnano : t.nano < 2000000000) (h : ¬ t.IsProper) :
    ¬ t.shown.isLeapSecond = true := by
  obtain ⟨-, -, hshown⟩ := shown_of_not_isProper hnano h
  rw [isLeapSecond_iff, hshown]
  simp only [nanosPerSecond]
  omega

/-- What a text shows is proper. -/
theorem isProper_shown (hnano : t.nano < 2000000000) : t.shown.IsProper := by
  by_cases h : t.IsProper
  · rwa [h.shown_eq]
  · have hout := not_isLeapSecond_shown hnano h
    refine ⟨?_, fun hleap => absurd hleap hout⟩
    have := mt isLeapSecond_iff.2 hout
    omega

/-- It is within the same minute. -/
theorem date_shown (hnano : t.nano < 2000000000) : t.shown.date = t.date := by
  by_cases h : t.IsProper
  · rw [h.shown_eq]
  · obtain ⟨-, hwithin, hshown⟩ := shown_of_not_isProper hnano h
    rw [hshown, date, date, Date.mk.injEq]
    simp only [secondsPerDay]
    omega

/-- An instant and the one that its text names have the same text. -/
theorem millisDigits_shown (hnano : t.nano < 2000000000) :
    t.shown.millisDigits = t.millisDigits := by
  by_cases h : t.IsProper
  · rw [h.shown_eq]
  · obtain ⟨hleap, hwithin, hshown⟩ := shown_of_not_isProper hnano h
    have hout := not_isLeapSecond_shown hnano h
    have hsecond : t.shown.secondOfDay = t.secondOfDay + 1 := by
      rw [hshown, secondOfDay_eq, secondOfDay_eq]
      dsimp only
      omega
    have hnext : t.shown.shownNano = t.shownNano := by
      rw [shownNano_of_not_leap hout, shownNano_of_leap hleap, hshown, nanosPerSecond]
    have hminute : t.secondOfDay % 60 ≠ 59 := by
      rw [secondOfDay_eq]
      omega
    have hhours : (t.secondOfDay + 1) / 3600 = t.secondOfDay / 3600 := by omega
    have hminutes : (t.secondOfDay + 1) / 60 = t.secondOfDay / 60 := by omega
    have hseconds : (t.secondOfDay + 1) % 60 = t.secondOfDay % 60 + 1 := by omega
    simp only [millisDigits, clockDigits, date_shown hnano, hnext, hsecond, hhours, hminutes,
      hseconds, if_pos hleap, if_neg hout, Nat.add_zero]

/-- There are no blanks in the text of an instant. -/
theorem isBlank_of_mem_millisDigits (h₀ : 0 ≤ t.date.civil.year) (h₁ : t.date.civil.year ≤ 9999) :
    ∀ c ∈ t.millisDigits, Text.isBlank c = false := by
  have hdigits (width n : Nat) : ∀ c ∈ Text.paddedDigits width n, Text.isBlank c = false :=
    fun c hc => Text.isBlank_of_isDigit
      (List.all_eq_true.1 (Text.all_isDigit_paddedDigits width n) c hc)
  have hmarks : Text.isBlank '-' = false ∧ Text.isBlank 'T' = false ∧ Text.isBlank ':' = false ∧
      Text.isBlank '.' = false ∧ Text.isBlank 'Z' = false := by decide
  simp only [millisDigits, digits_date h₀ h₁, clockDigits, List.mem_append, List.mem_cons]
  grind

theorem trimChars_millisDigits (h₀ : 0 ≤ t.date.civil.year) (h₁ : t.date.civil.year ≤ 9999) :
    Text.trimChars t.millisDigits = t.millisDigits := by
  have hne : t.millisDigits ≠ [] := by simp [millisDigits]
  have htrim := @Text.trimChars_append [] t.millisDigits [] (by simp) hne
    (isBlank_of_mem_millisDigits h₀ h₁) (by simp)
  simpa using htrim

/-- The text of an instant names the instant that it shows, cut off to the millisecond. -/
theorem instant?_millisText (hnano : t.nano < 2000000000) (h₀ : 0 ≤ t.date.civil.year)
    (h₁ : t.date.civil.year ≤ 9999) :
    TimeText.instant? (Text.trimChars t.millisText.toList) = some t.shown.toMillis := by
  rw [millisText, String.toList_ofList, trimChars_millisDigits h₀ h₁, ← millisDigits_shown hnano]
  have hdate := date_shown hnano
  exact instant?_millisDigits (isProper_shown hnano) (hdate ▸ h₀) (hdate ▸ h₁)

end Moment

namespace Zone

variable {t : Instant}

/-- From the text of an instant of the years 0 to 9999 every zone reads the instant that the text
shows, cut off to the millisecond, and the day of that instant. This is the instant itself, a leap
second at the end of a minute included; a leap second within a minute is read as the second after
it. -/
theorem reads_back_millisText (z : Zone) (hnano : t.nano < 2000000000)
    (h₀ : 0 ≤ t.date.civil.year) (h₁ : t.date.civil.year ≤ 9999) :
    ((t.isLeapSecond = true → t.second % 60 = 59) →
      z.readInstant t.millisText = .ok t.toMillis ∧
        z.readDay t.millisText = some (z.localDate t)) ∧
    (t.isLeapSecond = true → t.second % 60 ≠ 59 →
      t.shown = ⟨t.second + 1, t.nano - 1000000000⟩ ∧ t.shown.isLeapSecond = false ∧
        z.readInstant t.millisText = .ok t.shown.toMillis ∧
        z.readDay t.millisText = some (z.localDate t.shown)) := by
  have hread := Moment.instant?_millisText hnano h₀ h₁
  have hinstant : z.readInstant t.millisText = .ok t.shown.toMillis := by
    simp only [readInstant, readInstantChars, hread]
  have hday : z.readDay t.millisText = some (z.localDate t.shown) := readDay_of_instant? hread z
  constructor
  · intro hleap
    have hshown : t.shown = t := Moment.IsProper.shown_eq ⟨hnano, hleap⟩
    rw [hshown] at hinstant hday
    exact ⟨hinstant, hday⟩
  · intro hleap hwithin
    have hproper : ¬ t.IsProper := fun h => hwithin (h.leap hleap)
    obtain ⟨-, -, hshown⟩ := Moment.shown_of_not_isProper hnano hproper
    exact ⟨hshown, Bool.eq_false_iff.2 (Moment.not_isLeapSecond_shown hnano hproper), hinstant,
      hday⟩

/-- The leap second at the end of 2016, by the clocks of New York. -/
theorem newYork_reads_leap_second :
    Moment.millisText ⟨1483228799, 1500000000⟩ = "2016-12-31T23:59:60.500Z" ∧
      Zone.newYork.readInstant "2016-12-31T23:59:60.500Z" = .ok ⟨1483228799, 1500000000⟩ ∧
      Zone.newYork.readDay "2016-12-31T23:59:60.500Z" =
        some (Zone.newYork.localDate ⟨1483228799, 1500000000⟩) := by
  have htext : Moment.millisText ⟨1483228799, 1500000000⟩ = "2016-12-31T23:59:60.500Z" := by
    decide +kernel
  obtain ⟨hinstant, hday⟩ :=
    (reads_back_millisText .newYork (t := ⟨1483228799, 1500000000⟩) (by decide) (by decide)
      (by decide)).1 (by decide)
  rw [htext] at hinstant hday
  exact ⟨htext, hinstant, hday⟩

/-- Until 1887 the clocks of Tokyo were 9:18:59 ahead of UTC. The last leap second of 1879 there lay
within a minute of UTC, and its text is that of the first second of 1880. -/
theorem tokyo_leap_second_not_read_back :
    Zone.ofName? "Asia/Tokyo" = some Zone.tokyo ∧
      Zone.tokyo.readInstant "1879-12-31T23:59:60" = .ok ⟨-2840174340, 1000000000⟩ ∧
      Moment.millisText ⟨-2840174340, 1000000000⟩ = "1879-12-31T14:41:01.000Z" ∧
      Zone.tokyo.readInstant "1879-12-31T14:41:01.000Z" ≠
        .ok (Moment.toMillis ⟨-2840174340, 1000000000⟩) ∧
      Zone.tokyo.readDay "1879-12-31T14:41:01.000Z" ≠
        some (Zone.tokyo.localDate ⟨-2840174340, 1000000000⟩) := by
  have hnext : Zone.tokyo.readInstant "1879-12-31T14:41:01.000Z" = .ok ⟨-2840174339, 0⟩ :=
    Results.eq_ok_of_toOption (by decide +kernel)
  refine ⟨by decide +kernel, Results.eq_ok_of_toOption (by decide +kernel), by decide +kernel, ?_,
    by decide +kernel⟩
  rw [hnext, ne_eq, Except.ok.injEq]
  decide

end Zone
end RecordFilter
