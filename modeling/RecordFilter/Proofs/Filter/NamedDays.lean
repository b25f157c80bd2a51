import RecordFilter.Calendar.ZoneTable
import RecordFilter.Proofs.Calendar.NamedDates
import RecordFilter.Proofs.Calendar.SkippedTimes
import RecordFilter.Proofs.Filter.LocalRanges
import RecordFilter.Proofs.Filter.WindowSources
/-!
# The day and the instant of one text

An instant attribute may be compared with the instant of a text or with the day of it. The day is
the date that the clocks of the zone show at the instant, whichever form the text has: the forms
exclude each other, and where clocks skip a local time the search for it ends on the same date,
unless they skip the rest of that date as well. The day of such a text is still the date that it
names, though the clocks do not show it at the instant.

## Main statements

* `Zone.readInstant_eq_ok` — the texts from which an instant is read.
* `Zone.readDay_of_startsAt` — the day of a text without an offset.
* `Zone.IsOrdered.exists_readDay` — the day of a text from which an instant is read.
* `ConditionInput.day_of_named_instant` — conditions on the day and on the instant of a text.
* `ConditionInput.apia_day_not_shown` — a text of a date that was left out.
-/
namespace RecordFilter

open TimeText

namespace Zone

variable {z : Zone} {s : String} {time : LocalTime} {t : Instant} {d : Date}

/-- An instant is read from a text that names it with its offset, or without one by the clocks. -/
theorem readInstant_eq_ok (h : z.readInstant s = .ok t) :
    TimeText.instant? (Text.trimChars s.toList) = some t ∨
      ∃ time, StartsAt s time ∧ z.resolve time = .ok t := by
  unfold readInstant readInstantChars at h
  split at h
  · next hinstant =>
    cases h
    exact Or.inl hinstant
  · next hinstant =>
    right
    split at h
    · next time htime =>
      exact ⟨time, Or.inl ⟨by rw [namesInstant, hinstant]; rfl, htime⟩, h⟩
    · split at h
      · next d hd => exact ⟨.midnight d, Or.inr ⟨d, hd, rfl⟩, h⟩
      · cases h

/-- The day of a text without an offset is the date that it names. -/
theorem readDay_of_startsAt (h : StartsAt s time) (z : Zone) : z.readDay s = some time.date := by
  rcases h with hlocal | ⟨d, hd, rfl⟩
  · have hdate : plainDate? (Text.trimChars s.toList) = none := hlocal.ofText?
    simp only [readDay, readDayChars, hdate, hlocal.instant?, hlocal.2, Option.map_some]
  · rw [readDay_of_ofText? hd, Moment.date_midnight]

/-- The day of a text with an offset is the date that the clocks show at its instant. -/
theorem readDay_of_instant? (h : TimeText.instant? (Text.trimChars s.toList) = some t) (z : Zone) :
    z.readDay s = some (z.localDate t) := by
  simp only [readDay, readDayChars, plainDate?_of_instant? h, h]

/-- A text from which an instant is read has a day. The clocks show it at the instant, unless the
text names a local time from which on they skip it; then they show a later one. -/
theorem IsOrdered.exists_readDay (hz : z.IsOrdered) (h : z.readInstant s = .ok t) :
    ∃ d, z.readDay s = some d ∧
      (z.localDate t = d ∨
        d < z.localDate t ∧ ∃ time, NamesLocal s time ∧ time.date = d ∧ z.SkipsRest time) := by
  rcases readInstant_eq_ok h with hinstant | ⟨time, hstarts, hresolve⟩
  · exact ⟨_, readDay_of_instant? hinstant z, Or.inl rfl⟩
  refine ⟨time.date, readDay_of_startsAt hstarts z, ?_⟩
  rcases hstarts with hlocal | ⟨d, -, rfl⟩
  · refine (hz.localDate_resolve_or_skips hresolve).imp_right ?_
    rintro ⟨hlater, hskips⟩
    exact ⟨hlater, time, hlocal, rfl, hskips⟩
  · rw [Moment.date_midnight]
    exact Or.inl (hz.localDate_midnight hresolve)

end Zone

namespace ConditionInput

variable {i : ConditionInput} {z : Zone} {s : String} {t : Instant} {d : Date}

/-- A text is equal to its instant. -/
theorem test_equality_of_readInstant (htype : i.type = .date .datetime)
    (hvalue : i.value = .string s) (h : i.dates.zone.readInstant s = .ok t) {negated : Bool}
    (hop : i.operator = .equality negated) :
    i.test = .ok (some (.equal (.timestamp t) negated)) := by
  simp [test, hop, equalityTest, htype, hvalue, scalar, Attribute.coerce, Scalar.ofDate, h, bind,
    Except.bind, pure, Except.pure]

/-- What is on a text is within the window of its day. -/
theorem test_on_of_readDay (htoday : i.dates.HasToday) (hvalue : i.value = .string s)
    (h : i.dates.zone.readDay s = some d) (hop : i.operator = .date (.day .on)) :
    i.test = (i.dates.days d 0 1).map fun w => some (.wholeDays w) := by
  have hday : i.dates.dayOf i.value = .ok d := by
    simp only [hvalue, DateContext.dayOf, h]
  have hwindow : i.dates.window (.day .on) i.value = i.dates.days d 0 1 := by
    simp only [htoday.window_eq, DateContext.windowOn, hday, Results.ok_bind]
  simp only [test, hop, dateTest, hwindow]
  cases i.dates.days d 0 1 <;> rfl

/-- A text from which an instant is read has a day, and the clocks show it at the instant, unless
the text names a local time from which on they skip the date; then they show a later one. An instant
attribute is compared with the instant where a condition asks for equality, and with the window of
the day where one asks for the day. -/
theorem day_of_named_instant (hz : z.IsOrdered) (h : z.readInstant s = .ok t) :
    ∃ d, z.readDay s = some d ∧
      (z.localDate t = d ∨
        d < z.localDate t ∧ ∃ time, NamesLocal s time ∧ time.date = d ∧ z.SkipsRest time) ∧
      ∀ i : ConditionInput, i.type = .date .datetime → i.value = .string s → i.dates.zone = z →
        (∀ negated, i.operator = .equality negated →
          i.test = .ok (some (.equal (.timestamp t) negated))) ∧
        (i.dates.HasToday → i.operator = .date (.day .on) →
          i.test = (i.dates.days d 0 1).map fun w => some (.wholeDays w)) := by
  obtain ⟨d, hd, hshown⟩ := hz.exists_readDay h
  refine ⟨d, hd, hshown, ?_⟩
  rintro i htype hvalue rfl
  exact ⟨fun negated => test_equality_of_readInstant htype hvalue h,
    fun htoday => test_on_of_readDay htoday hvalue hd⟩

/-- Conditions on a local time that the clocks of New York skip. -/
def onSkippedTime (o : Operator) : ConditionInput where
  field := ⟨none, "starts"⟩
  type := .date .datetime
  operator := o
  value := .string "2025-03-09T02:14:00"
  dates := ⟨⟨1736971200, 0⟩, .newYork, .default⟩

/-- The local time stands for a later one of the same date. -/
theorem onSkippedTime_day :
    Zone.newYork.IsOrdered ∧
      Zone.newYork.readInstant "2025-03-09T02:14:00" = .ok ⟨1741504440, 0⟩ ∧
      Zone.newYork.readDay "2025-03-09T02:14:00" = some ⟨20156⟩ ∧
      Zone.newYork.localDate ⟨1741504440, 0⟩ = ⟨20156⟩ ∧
      (onSkippedTime (.equality false)).test =
        .ok (some (.equal (.timestamp ⟨1741504440, 0⟩) false)) ∧
      (onSkippedTime (.date (.day .on))).test =
        ((onSkippedTime (.date (.day .on))).dates.days ⟨20156⟩ 0 1).map
          fun w => some (.wholeDays w) := by
  have hz : Zone.newYork.IsOrdered := by decide +kernel
  have hread : Zone.newYork.readInstant "2025-03-09T02:14:00" = .ok ⟨1741504440, 0⟩ :=
    Results.eq_ok_of_toOption (by decide +kernel)
  have hday : Zone.newYork.readDay "2025-03-09T02:14:00" = some ⟨20156⟩ := by decide +kernel
  obtain ⟨d, hd, hshown, hconditions⟩ := day_of_named_instant hz hread
  obtain rfl : (⟨20156⟩ : Date) = d := Option.some.inj (hday.symm.trans hd)
  have hlocal := hshown.resolve_right fun hlater => absurd hlater.1 (by decide +kernel)
  exact ⟨hz, hread, hday, hlocal,
    (hconditions (onSkippedTime (.equality false)) rfl rfl rfl).1 false rfl,
    (hconditions (onSkippedTime (.date (.day .on))) rfl rfl rfl).2 (by decide +kernel) rfl⟩

/-- A local time of the date that Apia left out stands for the start of the next date. -/
theorem apia_day_not_shown :
    Zone.ofName? "Pacific/Apia" = some Zone.apia ∧
      Zone.apia.readInstant "2011-12-30T20:15:00" = .ok ⟨1325239200, 0⟩ ∧
      Zone.apia.readDay "2011-12-30T20:15:00" = some ⟨15338⟩ ∧
      Zone.apia.localDate ⟨1325239200, 0⟩ = ⟨15339⟩ ∧
      Zone.apia.readDay "2011-12-30T20:15:00" ≠ some (Zone.apia.localDate ⟨1325239200, 0⟩) :=
  ⟨by decide +kernel, Results.eq_ok_of_toOption (by decide +kernel), by decide +kernel,
    by decide +kernel, by decide +kernel⟩

end ConditionInput
end RecordFilter
