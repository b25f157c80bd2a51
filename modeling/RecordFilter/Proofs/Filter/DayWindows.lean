import RecordFilter.Calendar.ZoneTable
import RecordFilter.Proofs.Calendar.PlainStarts
import RecordFilter.Proofs.Filter.WindowSources
/-!
# The windows of a day

The windows that the three operators on a given day describe, against the calendar dates that the
zone shows. They agree where the clocks begin the date and the next one once, at a quarter of an
hour. Where a gap at midnight ends between two quarters, the search for the start of the date passes
over its first minutes.

## Main statements

* `DateContext.day_windows_agree` — when the windows of a day hold the instants of that date.
* `DateContext.kiritimati_today_misses_now` — a present that is not within today.
-/
namespace RecordFilter

namespace DateContext

variable {c : DateContext} {v : Json} {d : Date} {m : Instant} {w : Window}

theorem zone_midnight_eq_ok (h : c.midnight d = .ok m) : c.zone.midnight d = .ok m := by
  unfold midnight at h
  split at h
  · next t ht =>
    cases h
    exact ht
  · cases h

/-- The window from the start of a date on. -/
theorem contains_since_iff (hz : c.zone.IsOrdered) (h : c.midnight d = .ok m) :
    (∀ t : Instant, t.inCalendar = true →
        ((Window.since m).Contains t ↔ d ≤ c.zone.localDate t)) ↔ c.zone.BeginsPlainly d :=
  Zone.isDayStart_midnight_iff hz (zone_midnight_eq_ok h)

/-- The window up to the start of the next date. -/
theorem contains_before_iff (hz : c.zone.IsOrdered) (h : c.midnight ⟨d.day + 1⟩ = .ok m) :
    (∀ t : Instant, t.inCalendar = true →
        ((Window.before m).Contains t ↔ c.zone.localDate t ≤ d)) ↔
      c.zone.BeginsPlainly ⟨d.day + 1⟩ := by
  rw [← contains_since_iff hz h]
  refine forall_congr' fun t => imp_congr_right fun _ => ?_
  have hbefore : (Window.before m).Contains t ↔ ¬ (Window.since m).Contains t := by
    simp only [Window.Contains, Moment.lt_iff, Moment.le_iff]
    omega
  have hdate : c.zone.localDate t ≤ d ↔ ¬ (⟨d.day + 1⟩ : Date) ≤ c.zone.localDate t := by
    simp only [Date.le_iff]
    omega
  rw [hbefore, hdate, not_iff_not]

/-- The window from the start of a date to that of the next one. -/
theorem contains_between_iff (hz : c.zone.IsOrdered) {next : Instant} (h : c.midnight d = .ok m)
    (hnext : c.midnight ⟨d.day + 1⟩ = .ok next) (hd : c.zone.BeginsPlainly d)
    (hd' : c.zone.BeginsPlainly ⟨d.day + 1⟩) {t : Instant} (ht : t.inCalendar = true) :
    (Window.between m next).Contains t ↔ c.zone.localDate t = d := by
  have hboth : (Window.between m next).Contains t ↔
      (Window.since m).Contains t ∧ (Window.before next).Contains t := Iff.rfl
  rw [hboth, (contains_since_iff hz h).2 hd t ht, (contains_before_iff hz hnext).2 hd' t ht]
  cases hlocal : c.zone.localDate t
  cases d
  simp only [Date.le_iff, Date.mk.injEq]
  omega

theorem days_zero_one (h : c.days d 0 1 = .ok w) :
    ∃ start finish, c.midnight d = .ok start ∧ c.midnight ⟨d.day + 1⟩ = .ok finish ∧
      w = .between start finish := by
  simp only [days, Results.bind_eq_ok, Results.pure_eq_ok] at h
  obtain ⟨d₀, h₀, start, hstart, d₁, h₁, finish, hfinish, rfl⟩ := h
  have hd₀ : d₀ = d := by simpa using Date.day_of_checked (Results.inRange_eq_ok h₀)
  obtain rfl := Date.day_of_checked (Results.inRange_eq_ok h₁)
  exact ⟨start, finish, hd₀ ▸ hstart, hfinish, rfl⟩

/-- The windows of a day hold the instants whose local date is that day, a later or an earlier one,
exactly where the zone begins the date and the next one once, at a quarter of an hour; there the
present is within today. -/
theorem day_windows_agree (hz : c.zone.IsOrdered) (hd : c.dayOf v = .ok d) :
    (∀ w, c.window (.day .onOrAfter) v = .ok w →
      ((∀ t : Instant, t.inCalendar = true → (w.Contains t ↔ d ≤ c.zone.localDate t)) ↔
        c.zone.BeginsPlainly d)) ∧
    (∀ w, c.window (.day .onOrBefore) v = .ok w →
      ((∀ t : Instant, t.inCalendar = true → (w.Contains t ↔ c.zone.localDate t ≤ d)) ↔
        c.zone.BeginsPlainly ⟨d.day + 1⟩)) ∧
    (∀ w, c.window (.day .on) v = .ok w →
      c.zone.BeginsPlainly d → c.zone.BeginsPlainly ⟨d.day + 1⟩ →
        ∀ t : Instant, t.inCalendar = true → (w.Contains t ↔ c.zone.localDate t = d)) ∧
    ∀ w, c.window (.calendar .today) v = .ok w → c.now.inCalendar = true →
      c.zone.BeginsPlainly c.today → c.zone.BeginsPlainly ⟨c.today.day + 1⟩ →
        w.Contains c.now := by
  refine ⟨fun w hw => ?_, fun w hw => ?_, fun w hw hd₀ hd₁ t ht => ?_,
    fun w hw hnow hd₀ hd₁ => ?_⟩ <;> obtain ⟨-, hw⟩ := window_eq_ok_iff.1 hw
  · simp only [windowOn, hd, Results.bind_eq_ok, Results.pure_eq_ok, Except.ok.injEq,
      exists_eq_left'] at hw
    obtain ⟨start, hstart, rfl⟩ := hw
    exact contains_since_iff hz hstart
  · simp only [windowOn, hd, Results.bind_eq_ok, Results.pure_eq_ok, Except.ok.injEq,
      exists_eq_left'] at hw
    obtain ⟨next, hnext, finish, hfinish, rfl⟩ := hw
    obtain rfl := Date.day_of_checked (Results.inRange_eq_ok hnext)
    exact contains_before_iff hz hfinish
  · simp only [windowOn, hd, Results.bind_eq_ok, Except.ok.injEq, exists_eq_left'] at hw
    obtain ⟨start, finish, hstart, hfinish, rfl⟩ := days_zero_one hw
    exact contains_between_iff hz hstart hfinish hd₀ hd₁ ht
  · obtain ⟨start, finish, hstart, hfinish, rfl⟩ := days_zero_one hw
    exact (contains_between_iff hz hstart hfinish hd₀ hd₁ hnow).2 rfl

/-- The day on which Sao Paulo set its clocks ahead at midnight in 2018, at noon in UTC. -/
def saoPauloNoon : DateContext := ⟨⟨1541332800, 0⟩, .saoPaulo, .default⟩

/-- On that day, which began at one o'clock, the windows hold the instants of their dates. -/
theorem saoPauloNoon_day_windows :
    Zone.saoPaulo.localTime ⟨1541300399, 0⟩ = ⟨1541289599, 0⟩ ∧
      Zone.saoPaulo.localTime ⟨1541300400, 0⟩ = ⟨1541293200, 0⟩ ∧
      saoPauloNoon.dayOf (.string "2018-11-04") = .ok ⟨17839⟩ ∧
      (∃ w, saoPauloNoon.window (.day .on) (.string "2018-11-04") = .ok w ∧
        ∀ t : Instant, t.inCalendar = true →
          (w.Contains t ↔ Zone.saoPaulo.localDate t = ⟨17839⟩)) ∧
      (∃ w, saoPauloNoon.window (.day .onOrAfter) (.string "2018-11-04") = .ok w ∧
        ∀ t : Instant, t.inCalendar = true →
          (w.Contains t ↔ ⟨17839⟩ ≤ Zone.saoPaulo.localDate t)) ∧
      (∃ w, saoPauloNoon.window (.day .onOrBefore) (.string "2018-11-04") = .ok w ∧
        ∀ t : Instant, t.inCalendar = true →
          (w.Contains t ↔ Zone.saoPaulo.localDate t ≤ ⟨17839⟩)) ∧
      ∃ w, saoPauloNoon.window (.calendar .today) .null = .ok w ∧
        w.Contains saoPauloNoon.now := by
  have hz : saoPauloNoon.zone.IsOrdered := by decide +kernel
  have hd : saoPauloNoon.dayOf (.string "2018-11-04") = .ok ⟨17839⟩ :=
    Results.eq_ok_of_toOption (by decide +kernel)
  have hfirst : saoPauloNoon.zone.BeginsPlainly ⟨17839⟩ :=
    Zone.beginsPlainly_of_beginsOnce hz (by decide +kernel)
  have hnext : saoPauloNoon.zone.BeginsPlainly ⟨17840⟩ :=
    Zone.beginsPlainly_of_beginsOnce hz (by decide +kernel)
  obtain ⟨hafter, hbefore, hon, htoday⟩ := day_windows_agree hz hd
  exact ⟨by decide +kernel, by decide +kernel, hd, ⟨_, rfl, hon _ rfl hfirst hnext⟩,
    ⟨_, rfl, (hafter _ rfl).2 hfirst⟩, ⟨_, rfl, (hbefore _ rfl).2 hnext⟩,
    _, rfl, htoday _ rfl (by decide) hfirst hnext⟩

/-- On a day of Kiritimati that lost its first forty minutes, the present is not within today: the
search for its start goes from a quarter before the end of the gap to one after it. -/
theorem kiritimati_today_misses_now :
    Zone.ofName? "Pacific/Kiritimati" = some Zone.kiritimati ∧
      (DateContext.mk ⟨307622400, 0⟩ .kiritimati .default).today = ⟨3560⟩ ∧
      (DateContext.mk ⟨307622400, 0⟩ .kiritimati .default).window (.calendar .today) .null =
        .ok (.between ⟨307622700, 0⟩ ⟨307706400, 0⟩) ∧
      ¬ (Window.between ⟨307622700, 0⟩ ⟨307706400, 0⟩).Contains ⟨307622400, 0⟩ := by
  refine ⟨rfl, rfl, rfl, by decide⟩

end DateContext
end RecordFilter
