import RecordFilter.Proofs.Calendar.CalendarLimits
import RecordFilter.Proofs.Calendar.LocalOrder
/-!
# Local times that a zone skips

Where clocks are set ahead, the local times between the old and the new one are not shown. A search
for the start of a date finds it exactly if one of the quarters of an hour that it tries is shown.
It always does where clocks are never set ahead by more than a quarter of an hour less than the four
hours that it covers; a zone that moves across the date line leaves out a whole date. A search may
also end on a later date than the local time from which it started, if clocks skip the rest of the
date.

## Main definitions

* `Zone.ShowsStart` — the clocks show a quarter of an hour at the start of a date.
* `Zone.gaps`, `Zone.HasShortGaps` — the local seconds that are passed over at each change.
* `Zone.SkipsRest` — local times from which on a date is not shown.

## Main statements

* `Zone.IsOrdered.exists_midnight_iff` — when the start of a date is found.
* `Zone.clockFrom_shown_or_in_gap` — local seconds that are not shown lie in a gap.
* `Zone.IsOrdered.showsStart_of_hasShortGaps` — zones in which every start is found.
* `Zone.IsOrdered.localDate_resolve_or_skips` — the date that is shown where a search ends.
-/
namespace RecordFilter.Zone

variable {z : Zone} {d : Date} {first : Change} {changes : List Change} {time : LocalTime}
  {t : Instant} {L s : Int}

/-! ## Starts of dates -/

/-- The clocks show midnight of the date or one of the quarters of an hour that are tried after
it. -/
def ShowsStart (z : Zone) (d : Date) : Prop :=
  ∃ q < searchSteps, ∃ t : Instant, t.inCalendar = true ∧
    z.localTime t = (Moment.midnight d).quartersLater q

theorem quartersLater_midnight (d : Date) (q : Nat) :
    (Moment.midnight d).quartersLater q = ⟨d.day * 86400 + 900 * q, 0⟩ :=
  Moment.quartersLater_of_not_leap rfl q

/-- Within the calendar a search takes the first of its steps that is shown. -/
theorem search_eq_findSome? {n : Nat} {time : LocalTime}
    (h : ∀ k ≤ n, (time.quartersLater k).inCalendar = true) :
    z.search n time =
      .ok ((List.range n).findSome? fun k => z.instant? (time.quartersLater k)) := by
  induction n generalizing time with
  | zero => rfl
  | succ n ih =>
    have hlater : time.addSeconds? stepSeconds = some (time.addSeconds stepSeconds) :=
      if_pos (h 1 (by omega))
    have hrest : z.search n (time.addSeconds stepSeconds) = _ :=
      ih fun k hk => h (k + 1) (by omega)
    rw [List.range_succ_eq_map, List.findSome?_cons, search]
    cases hshown : z.instant? time with
    | some t => simp [Moment.quartersLater, hshown]
    | none =>
      simp only [hlater, hrest, Moment.quartersLater, hshown, List.findSome?_map]
      rfl

/-- The search for the start of a date either ends or finds none of its steps shown. -/
theorem midnight_cases (hd : Date.firstDay < d.day) (hd' : d.day < Date.lastDay) :
    (∃ m, z.midnight d = .ok m) ∨
      z.midnight d = .error (.skipped (.midnight d) z.name) ∧
        ∀ q : Nat, q < searchSteps → z.instant? ⟨d.day * 86400 + 900 * q, 0⟩ = none := by
  have hin (k : Nat) (hk : k ≤ searchSteps) :
      ((Moment.midnight d).quartersLater k).inCalendar = true := by
    simp only [searchSteps] at hk
    rw [quartersLater_midnight, Moment.inCalendar_iff, firstSecond, Moment.secondsPerDay]
    dsimp only
    omega
  have hsearch := search_eq_findSome? (z := z) hin
  simp only [quartersLater_midnight] at hsearch
  cases hfound : (List.range searchSteps).findSome?
      fun q : Nat => z.instant? ⟨d.day * 86400 + 900 * q, 0⟩ with
  | some m =>
    left
    exact ⟨m, by simp only [midnight, resolve, hsearch, hfound]⟩
  | none =>
    right
    refine ⟨by simp only [midnight, resolve, hsearch, hfound], fun q hq => ?_⟩
    exact List.findSome?_eq_none_iff.1 hfound q (List.mem_range.2 hq)

/-- The start of a date is found exactly if the clocks show it. -/
theorem IsOrdered.exists_midnight_iff (hz : z.IsOrdered) (hd : Date.firstDay < d.day)
    (hd' : d.day < Date.lastDay) : (∃ m, z.midnight d = .ok m) ↔ z.ShowsStart d := by
  constructor
  · rintro ⟨m, hm⟩
    obtain ⟨q, hq, hfound, -⟩ := midnight_eq_ok hm
    obtain ⟨-, -, -, hin⟩ := (instant?_eq_some_iff hz).1 hfound
    refine ⟨q, hq, m, hin, ?_⟩
    rw [hz.localTime_of_instant? hfound, quartersLater_midnight]
  · rintro ⟨q, hq, t, ht, hshown⟩
    refine (midnight_cases hd hd').resolve_right fun ⟨_, hnone⟩ => ?_
    rw [quartersLater_midnight] at hshown
    exact hz.clock_ne_of_instant? (hnone q hq) ht (congrArg Moment.second hshown)

/-- Otherwise the search passes over all that it tries. -/
theorem IsOrdered.midnight_eq_error (hz : z.IsOrdered) (hd : Date.firstDay < d.day)
    (hd' : d.day < Date.lastDay) (h : ¬ z.ShowsStart d) :
    z.midnight d = .error (.skipped (.midnight d) z.name) :=
  ((midnight_cases hd hd').resolve_left (mt (hz.exists_midnight_iff hd hd').1 h)).1

/-- The start of a date is found on the date. -/
theorem IsOrdered.localDate_midnight (hz : z.IsOrdered) {m : Instant}
    (h : z.midnight d = .ok m) : z.localDate m = d := by
  obtain ⟨q, hq, hm, -⟩ := midnight_eq_ok h
  have hlocal : z.localDate m = ⟨(d.day * 86400 + 900 * q) / 86400⟩ :=
    congrArg Moment.date (hz.localTime_of_instant? hm)
  simp only [searchSteps] at hq
  have hday : (d.day * 86400 + 900 * q) / 86400 = d.day := by omega
  rw [hlocal, hday]

/-! ## Gaps -/

/-- What the clocks go from and to at each change, given the offset before; they skip the local
seconds between where they are set ahead. -/
def gaps (offset : Int) : List Change → List (Int × Int)
  | [] => []
  | change :: rest =>
    (change.second + offset, change.second + change.offset) :: gaps change.offset rest

/-- Clocks run on after a change for as long as changes are apart. -/
theorem clockFrom_start_add (h : spaced first.second changes = true) {e : Int} (he : 0 ≤ e)
    (he' : e < 1800) :
    clockFrom first.offset changes (first.second + e) = first.second + first.offset + e := by
  cases changes with
  | nil =>
    simp only [clockFrom, offsetFrom]
    omega
  | cons change rest =>
    simp only [spaced, Bool.and_eq_true, decide_eq_true_eq] at h
    rw [clockFrom_cons_of_lt (by omega)]
    omega

/-- From what the clocks show at a start on, they show a local second or skip it in a gap, and after
the gap they run on. -/
theorem clockFrom_shown_or_in_gap (h : spaced first.second changes = true)
    (hL : first.second + first.offset ≤ L) :
    (∃ s, first.second ≤ s ∧ clockFrom first.offset changes s = L) ∨
      ∃ g ∈ gaps first.offset changes, g.1 ≤ L ∧ L < g.2 ∧ ∀ e, 0 ≤ e → e < 1800 →
        ∃ s, first.second ≤ s ∧ clockFrom first.offset changes s = g.2 + e := by
  induction changes generalizing first with
  | nil =>
    left
    refine ⟨L - first.offset, by omega, ?_⟩
    simp only [clockFrom, offsetFrom]
    omega
  | cons change rest ih =>
    simp only [spaced, Bool.and_eq_true, decide_eq_true_eq] at h
    obtain ⟨hstart, hrest⟩ := h
    have hlater {M : Int} (hM : ∃ s, change.second ≤ s ∧ clockFrom change.offset rest s = M) :
        ∃ s, first.second ≤ s ∧ clockFrom first.offset (change :: rest) s = M := by
      obtain ⟨s, hs, hclock⟩ := hM
      exact ⟨s, by omega, by rw [clockFrom_cons_of_le hs, hclock]⟩
    by_cases hspan : L < change.second + first.offset
    · left
      refine ⟨L - first.offset, by omega, ?_⟩
      rw [clockFrom_cons_of_lt (by omega)]
      omega
    · by_cases hgap : L < change.second + change.offset
      · right
        refine ⟨_, List.mem_cons_self, by dsimp only; omega, hgap, fun e he he' => hlater ?_⟩
        exact ⟨change.second + e, by omega, clockFrom_start_add hrest he he'⟩
      · refine (ih hrest (by omega)).imp hlater ?_
        rintro ⟨g, hg, hfrom, hto, hafter⟩
        exact ⟨g, List.mem_cons_of_mem _ hg, hfrom, hto, fun e he he' => hlater (hafter e he he')⟩

/-- Clocks are never set ahead by more than a quarter of an hour less than a search covers. -/
def HasShortGaps (z : Zone) : Prop := ∀ g ∈ gaps z.initialOffset z.changes, g.2 ≤ g.1 + 13500

instance (z : Zone) : Decidable z.HasShortGaps :=
  inferInstanceAs (Decidable (∀ g ∈ gaps z.initialOffset z.changes, g.2 ≤ g.1 + 13500))

/-- What the clocks show at a start on is an instant of the calendar if it lies within it. -/
theorem IsNear.exists_localTime (hnear : z.IsNear) (hd : Date.firstDay < d.day)
    (hd' : d.day < Date.lastDay) {q : Nat} (hq : q < searchSteps)
    (hshown : z.clock s = d.day * 86400 + 900 * q) :
    ∃ t : Instant, t.inCalendar = true ∧ z.localTime t = (Moment.midnight d).quartersLater q := by
  have hoffset := hnear s
  have hclock : s + z.offsetAt s = d.day * 86400 + 900 * q := hshown
  simp only [searchSteps] at hq
  refine ⟨⟨s, 0⟩, ?_, ?_⟩
  · rw [Moment.inCalendar_iff, firstSecond, Moment.secondsPerDay]
    dsimp only
    omega
  · rw [quartersLater_midnight, localTime_eq]
    exact congrArg (Moment.mk · 0) hshown

/-- Where gaps are short, the first quarter of an hour behind one is tried. -/
theorem IsOrdered.showsStart_of_hasShortGaps (hz : z.IsOrdered) (hnear : z.IsNear)
    (hspaced : z.IsSpaced) (hshort : z.HasShortGaps) (hd : Date.firstDay < d.day)
    (hd' : d.day < Date.lastDay) : z.ShowsStart d := by
  have hstart : firstSecond + z.initialOffset ≤ d.day * 86400 := by
    have hclock : z.clock firstSecond = firstSecond + z.initialOffset := clockFrom_start hz
    have hoffset := hnear firstSecond
    have : firstSecond + z.offsetAt firstSecond = firstSecond + z.initialOffset := hclock
    simp only [firstSecond, Moment.secondsPerDay] at *
    omega
  have hcases := @clockFrom_shown_or_in_gap ⟨firstSecond, z.initialOffset⟩ z.changes
    (d.day * 86400) hspaced hstart
  rcases hcases with ⟨s, -, hs⟩ | ⟨g, hg, hfrom, hto, hafter⟩
  · exact ⟨0, by decide, hnear.exists_localTime hd hd' (by decide) (hs.trans (by simp))⟩
  · have hlong := hshort g hg
    obtain ⟨s, -, hs⟩ := hafter ((d.day * 86400 - g.2) % 900) (by omega) (by omega)
    have hq : ((g.2 - d.day * 86400 + 899) / 900).toNat < searchSteps := by
      simp only [searchSteps]
      omega
    exact ⟨_, hq, hnear.exists_localTime hd hd' hq (hs.trans (by omega))⟩

/-! ## The rest of a date -/

/-- The clocks show neither the local time nor one that is whole quarters of an hour after it on its
date. -/
def SkipsRest (z : Zone) (time : LocalTime) : Prop :=
  ∀ k, (time.quartersLater k).date = time.date → ∀ u : Instant, u.inCalendar = true →
    z.clock u.second ≠ (time.quartersLater k).second

/-- The date of a local time is shown at the instant that it stands for, unless the clocks skip the
rest of the date; then a later one is shown. -/
theorem IsOrdered.localDate_resolve_or_skips (hz : z.IsOrdered) (h : z.resolve time = .ok t) :
    z.localDate t = time.date ∨ time.date < z.localDate t ∧ z.SkipsRest time := by
  obtain ⟨q, -, hq, hbefore⟩ := resolve_eq_ok h
  have hlocal := hz.localTime_of_instant? hq
  have hshown : z.localDate t = (time.quartersLater q).date := congrArg Moment.date hlocal
  have hday (k : Nat) : (time.quartersLater k).date.day = (time.second + 900 * k) / 86400 := by
    rw [← Moment.second_quartersLater]
    rfl
  have htime : time.date.day = time.second / 86400 := rfl
  rw [hshown]
  by_cases hsame : (time.quartersLater q).date = time.date
  · exact Or.inl hsame
  right
  have hlater : time.date.day < (time.quartersLater q).date.day := by
    have hne : (time.quartersLater q).date.day ≠ time.date.day := fun heq =>
      hsame (congrArg Date.mk heq)
    have := hday q
    omega
  refine ⟨hlater, fun k hk u hu => hz.clock_ne_of_instant? (hbefore k ?_) hu⟩
  have := hday q
  have := hday k
  rw [hk] at this
  omega

end RecordFilter.Zone
