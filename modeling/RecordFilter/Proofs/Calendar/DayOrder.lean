import RecordFilter.Proofs.Calendar.DayStarts
/-!
# Days start in order

Of two local times, the clocks show the earlier one first for the first time: a span that starts
behind the earlier one starts behind it for good. The search for the start of a date ends on that
date. So dates start in their order, whatever the clocks do in between.

## Main statements

* `Zone.firstSecond?_lt` — the first seconds of two local times.
* `Zone.IsOrdered.midnight_lt` — the starts of two dates.
-/
namespace RecordFilter.Zone

variable {z : Zone} {first : Change} {changes : List Change} {start : Option Int} {L L' s s' : Int}

/-- What is found in the spans from a change on is found there. -/
theorem le_of_firstSecond? (h : ascends first changes = true)
    (hs : firstSecond? (some first.second) first.offset changes L = some s) :
    first.second ≤ s ∧ first.second + first.offset ≤ L := by
  obtain ⟨hstart, hclock⟩ := ((firstSecond?_spec h (Or.inr rfl)).1 s hs).1
  have hle : first.second ≤ s := by simpa using hstart
  have := clockFrom_start_le h hle
  omega

/-- Of two local seconds, the earlier one is found first. -/
theorem firstSecond?_lt (h : ascends first changes = true)
    (hstart : start = none ∨ start = some first.second) (hL : L < L')
    (hs : firstSecond? start first.offset changes L = some s)
    (hs' : firstSecond? start first.offset changes L' = some s') : s < s' := by
  induction changes generalizing first start with
  | nil =>
    simp only [firstSecond?] at hs hs'
    grind
  | cons change rest ih =>
    obtain ⟨hlt, hclock, hrest⟩ := ascends_cons.1 h
    simp only [firstSecond?, Bool.and_eq_true, decide_eq_true_eq] at hs hs'
    split at hs <;> split at hs'
    · cases hs
      cases hs'
      omega
    · next hin _ =>
      cases hs
      have := (le_of_firstSecond? hrest hs').1
      omega
    · next hout hin =>
      -- the later time is shown in the span, so the earlier one lies before the span, where it
      -- is not shown again
      have hstarts := (le_of_firstSecond? hrest hs).2
      rcases hstart with rfl | rfl
      · exact absurd ⟨rfl, by omega⟩ hout
      · simp only [Option.all_some, decide_eq_true_eq] at hout hin
        omega
    · exact ih hrest (Or.inr rfl) hs hs'

/-- An instant at which a local time is shown is at the first second that is found. -/
theorem firstSecond?_of_instant? {time : LocalTime} {m : Instant} (h : z.instant? time = some m) :
    firstSecond? none z.initialOffset z.changes time.second = some m.second := by
  obtain ⟨t, ht, hchecked⟩ := Option.bind_eq_some_iff.1 h
  obtain ⟨second, hsecond, rfl⟩ := Option.map_eq_some_iff.1 ht
  rw [Moment.eq_of_checked hchecked]
  exact hsecond

theorem IsOrdered.instant?_lt (hz : z.IsOrdered) {time time' : LocalTime} {m m' : Instant}
    (htime : time.second < time'.second) (h : z.instant? time = some m)
    (h' : z.instant? time' = some m') : m < m' :=
  Or.inl (firstSecond?_lt hz (Or.inl rfl) htime (firstSecond?_of_instant? h)
    (firstSecond?_of_instant? h'))

/-- Dates start in their order. -/
theorem IsOrdered.midnight_lt (hz : z.IsOrdered) {d e : Date} {m m' : Instant} (hd : d < e)
    (h : z.midnight d = .ok m) (h' : z.midnight e = .ok m') : m < m' := by
  obtain ⟨q, hq, hm, -⟩ := midnight_eq_ok h
  obtain ⟨q', -, hm', -⟩ := midnight_eq_ok h'
  refine hz.instant?_lt ?_ hm hm'
  simp only [Date.lt_iff, searchSteps] at hd hq ⊢
  omega

end RecordFilter.Zone
