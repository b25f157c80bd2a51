import RecordFilter.Calendar.ZoneTable
import RecordFilter.Filter.Test
import RecordFilter.Proofs.Calendar.LocalOrder
import RecordFilter.Proofs.Calendar.TextForms
import RecordFilter.Proofs.Results
/-!
# Ranges between local times

The bounds of a range of instants may be texts without an offset, which stand for what the clocks of
the zone show, and a plain date as the upper bound for all of its day. The range lies between the
instants that the local times stand for. Where clocks skip the lower bound these may be in the wrong
order, and then the range is empty although its bounds are not.

## Main definitions

* `TimeText.NamesLocal` — texts that name a local time.
* `TimeText.StartsAt` — the same, or texts of dates, which start at midnight.

## Main statements

* `Zone.readInstant_of_startsAt` — how such texts are read.
* `ConditionInput.test_between_times`, `ConditionInput.test_between_date` — the ranges.
* `ConditionInput.local_range_order` — in which order the bounds are.
* `ConditionInput.newYork_range_inverted` — a range that is inverted.
-/
namespace RecordFilter

namespace TimeText

variable {cs : List Char} {s : String} {time : LocalTime} {d : Date}

/-- Behind the date of a local time there is a time of day. -/
theorem plainDate?_of_plainTime? (h : plainTime? cs = some time) : plainDate? cs = none := by
  simp only [plainTime?, Option.bind_eq_bind, Option.bind_eq_some_iff] at h
  obtain ⟨⟨date, rest⟩, hdate, hclock⟩ := h
  cases rest with
  | nil => simp [clock?, short?, upTo?, Text.skipBlanks] at hclock
  | cons c rest => simp [plainDate?, hdate]

/-- The text names a local time and no offset. -/
def NamesLocal (s : String) (time : LocalTime) : Prop :=
  namesInstant s = false ∧ plainTime? (Text.trimChars s.toList) = some time

/-- The text names a local time, or a date that starts then. -/
def StartsAt (s : String) (time : LocalTime) : Prop :=
  NamesLocal s time ∨ ∃ d, Date.ofText? s = some d ∧ time = .midnight d

theorem NamesLocal.ofText? (h : NamesLocal s time) : Date.ofText? s = none :=
  plainDate?_of_plainTime? h.2

theorem NamesLocal.instant? (h : NamesLocal s time) :
    TimeText.instant? (Text.trimChars s.toList) = none := by
  simpa [namesInstant] using h.1

end TimeText

open TimeText

/-- Texts without an offset are read by the clocks of the zone. -/
theorem Zone.readInstant_of_startsAt {s : String} {time : LocalTime} (h : StartsAt s time)
    (z : Zone) : z.readInstant s = z.resolve time := by
  unfold readInstant readInstantChars
  rcases h with hlocal | ⟨d, hd, rfl⟩
  · simp only [hlocal.instant?, hlocal.2]
  · have hd : plainDate? (Text.trimChars s.toList) = some d := hd
    cases hinstant : TimeText.instant? (Text.trimChars s.toList) with
    | some t => simp [plainDate?_of_instant? hinstant] at hd
    | none =>
      cases htime : plainTime? (Text.trimChars s.toList) with
      | some time => simp [plainDate?_of_plainTime? htime] at hd
      | none => simp only [hd, midnight]

/-- The day of a plain date is that date. -/
theorem Zone.readDay_of_ofText? {s : String} {d : Date} (h : Date.ofText? s = some d) (z : Zone) :
    z.readDay s = some d := by
  have h : plainDate? (Text.trimChars s.toList) = some d := h
  simp [readDay, readDayChars, h]

namespace ConditionInput

variable {i : ConditionInput} {z : Zone} {low high : String} {a b : LocalTime} {s t : Instant}
  {d e : Date}

section Between

variable (htype : i.type = .date .datetime) (hop : i.operator = .between)
  (hvalue : i.value = .array [.string low, .string high]) (hlow : StartsAt low a)
  (ha : i.dates.zone.resolve a = .ok s)

include htype hop hvalue hlow ha

/-- A range of instants up to a local time. -/
theorem test_between_times (hhigh : NamesLocal high b) (hb : i.dates.zone.resolve b = .ok t) :
    i.test = .ok (some (.range (.timestamp s) (.inclusive (.timestamp t)))) := by
  have hread := (Zone.readInstant_of_startsAt hlow i.dates.zone).trans ha
  have hread' := (Zone.readInstant_of_startsAt (Or.inl hhigh) i.dates.zone).trans hb
  simp [test, hop, range, htype, hvalue, Attribute.coerceRange, Attribute.coerceUpper,
    hhigh.ofText?, Attribute.coerce, Scalar.ofDate, hread, hread', bind, Except.bind, Except.map,
    pure, Except.pure]

/-- A range of instants up to the end of a date. -/
theorem test_between_date (hhigh : Date.ofText? high = some d) (he : d.succ? = some e)
    (hb : i.dates.zone.resolve (.midnight e) = .ok t) :
    i.test = .ok (some (.range (.timestamp s) (.exclusive (.timestamp t)))) := by
  have hread := (Zone.readInstant_of_startsAt hlow i.dates.zone).trans ha
  have hday := Zone.readDay_of_ofText? hhigh i.dates.zone
  have hend : i.dates.midnight e = .ok t := by
    unfold DateContext.midnight Zone.midnight
    rw [hb]
  simp [test, hop, range, htype, hvalue, Attribute.coerceRange, Attribute.coerceUpper, hhigh,
    Attribute.dayEnd, hday, he, hend, Attribute.coerce, Scalar.ofDate, hread, bind, Except.bind,
    pure, Except.pure]

end Between

/-- Two local times stand for instants in the order of what the clocks show there. This is their own
order if the clocks show the earlier one, if they are whole quarters of an hour or at least four
hours apart, and else it may be lost, by less than a quarter of an hour. The instants are the bounds
of a range between texts of the local times, or up to a date that ends with the later one. -/
theorem local_range_order (hz : z.IsOrdered) (hspaced : z.IsSpaced) (hab : a ≤ b)
    (ha : z.resolve a = .ok s) (hb : z.resolve b = .ok t) :
    (s ≤ t ↔ z.localTime s ≤ z.localTime t) ∧
    (∀ u : Instant, u.inCalendar = true → z.localTime u = a → s ≤ t) ∧
    (∀ k, b = a.quartersLater k → s ≤ t) ∧
    (a.second + 14400 ≤ b.second → s ≤ t) ∧
    s.second < t.second + 900 ∧
    ∀ i : ConditionInput, i.type = .date .datetime → i.operator = .between → i.dates.zone = z →
      ∀ low high, i.value = .array [.string low, .string high] → StartsAt low a →
        (NamesLocal high b →
          i.test = .ok (some (.range (.timestamp s) (.inclusive (.timestamp t))))) ∧
        ∀ d e, Date.ofText? high = some d → d.succ? = some e → b = .midnight e →
          i.test = .ok (some (.range (.timestamp s) (.exclusive (.timestamp t)))) := by
  refine ⟨hz.resolve_le_iff ha hb, ?_, ?_, hz.resolve_le_of_apart ha hb,
    hz.second_resolve_lt hspaced hab ha hb, ?_⟩
  · intro u hu hshown
    exact hz.resolve_le_of_shown hab ha hb hu hshown
  · rintro k rfl
    exact hz.resolve_le_of_quartersLater ha hb
  · rintro i htype hop rfl low high hvalue hlow
    constructor
    · intro hhigh
      exact test_between_times htype hop hvalue hlow ha hhigh hb
    · rintro d e hhigh he rfl
      exact test_between_date htype hop hvalue hlow ha hhigh he hb

/-! ### A gap in New York -/

/-- Between two local times of the hour that the clocks of New York skip, a minute apart. -/
def withinSkippedHour : ConditionInput where
  field := ⟨none, "starts"⟩
  type := .date .datetime
  operator := .between
  value := .array [.string "2025-03-09T02:14:00", .string "2025-03-09T02:15:00"]
  dates := ⟨⟨1736971200, 0⟩, .newYork, .default⟩

/-- Clocks go on at 3:00, and quarters of an hour lead from 2:14 to 3:14, but from 2:15 to 3:00. -/
theorem newYork_resolve_skipped :
    Zone.newYork.resolve ⟨1741486440, 0⟩ = .ok ⟨1741504440, 0⟩ ∧
      Zone.newYork.resolve ⟨1741486500, 0⟩ = .ok ⟨1741503600, 0⟩ :=
  ⟨Results.eq_ok_of_toOption (by decide +kernel), Results.eq_ok_of_toOption (by decide +kernel)⟩

theorem namesLocal_skipped :
    NamesLocal "2025-03-09T02:14:00" ⟨1741486440, 0⟩ ∧
      NamesLocal "2025-03-09T02:15:00" ⟨1741486500, 0⟩ :=
  ⟨⟨by decide +kernel, by decide +kernel⟩, by decide +kernel, by decide +kernel⟩

/-- The order that is lost is that of the clocks at 3:14 and at 3:00, by less than a quarter of an
hour. -/
theorem withinSkippedHour_bounds :
    ∃ s t : Instant, Zone.newYork.resolve ⟨1741486440, 0⟩ = .ok s ∧
      Zone.newYork.resolve ⟨1741486500, 0⟩ = .ok t ∧
      (s ≤ t ↔ Zone.newYork.localTime s ≤ Zone.newYork.localTime t) ∧
      s.second < t.second + 900 ∧
      withinSkippedHour.test = .ok (some (.range (.timestamp s) (.inclusive (.timestamp t)))) := by
  have hz : Zone.newYork.IsOrdered := by decide +kernel
  have hspaced : Zone.newYork.IsSpaced := by decide +kernel
  obtain ⟨ha, hb⟩ := newYork_resolve_skipped
  obtain ⟨horder, -, -, -, hbound, hrange⟩ := local_range_order hz hspaced (by decide) ha hb
  exact ⟨_, _, ha, hb, horder, hbound,
    (hrange withinSkippedHour rfl rfl rfl _ _ rfl (Or.inl namesLocal_skipped.1)).1
      namesLocal_skipped.2⟩

/-- Between a local time of New York and one a minute later there is an inverted range. -/
theorem newYork_range_inverted :
    Zone.ofName? "America/New_York" = some Zone.newYork ∧
      (⟨1741486440, 0⟩ : LocalTime) ≤ ⟨1741486500, 0⟩ ∧
      Zone.newYork.resolve ⟨1741486440, 0⟩ = .ok ⟨1741504440, 0⟩ ∧
      Zone.newYork.resolve ⟨1741486500, 0⟩ = .ok ⟨1741503600, 0⟩ ∧
      ¬ (⟨1741504440, 0⟩ : Instant) ≤ ⟨1741503600, 0⟩ ∧
      withinSkippedHour.test = .ok (some (.range (.timestamp ⟨1741504440, 0⟩)
        (.inclusive (.timestamp ⟨1741503600, 0⟩)))) := by
  obtain ⟨ha, hb⟩ := newYork_resolve_skipped
  exact ⟨by decide +kernel, by decide, ha, hb, by decide, test_between_times rfl rfl rfl
    (Or.inl namesLocal_skipped.1) ha namesLocal_skipped.2 hb⟩

end ConditionInput
end RecordFilter
