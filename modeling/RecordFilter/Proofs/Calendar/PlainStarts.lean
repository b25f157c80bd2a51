import RecordFilter.Proofs.Calendar.DayStarts
/-!
# Dates that begin once

Whether the clocks of a zone begin a date once, at a whole number of quarters of an hour after
midnight, can be seen from its changes: no span before the one that reaches midnight shows it, and
no span behind it starts earlier.

## Main definitions

* `Zone.beginsOnce` — the check, span by span.

## Main statements

* `Zone.exists_first_of_reachesOnce` — where clocks first reach a local second, for good.
* `Zone.beginsPlainly_of_beginsOnce` — dates that pass the check begin once.
-/
namespace RecordFilter.Zone

variable {z : Zone} {d : Date} {first : Change} {changes : List Change} {L : Int}

/-- From the span that starts with a change on, clocks reach a local second once, and a whole number
of quarters of an hour from it. -/
def reachesOnce (L : Int) : Change → List Change → Bool
  | _, [] => true
  | first, change :: rest =>
    if change.second + first.offset ≤ L then
      if L ≤ change.second + change.offset then (change.second + change.offset - L) % 900 = 0
      else reachesOnce L change rest
    else L ≤ change.second + change.offset

/-- The clocks of the zone reach midnight of the date once. -/
def beginsOnce (z : Zone) (d : Date) : Bool :=
  firstSecond + z.initialOffset < d.day * 86400 &&
    reachesOnce (d.day * 86400) ⟨firstSecond, z.initialOffset⟩ z.changes

/-- There is a first second at which they show the local second or a later one, and no earlier one
is shown after it. -/
theorem exists_first_of_reachesOnce (h : ascends first changes = true)
    (hstart : first.second + first.offset < L) (honce : reachesOnce L first changes = true) :
    ∃ f, first.second ≤ f ∧
      (∀ s, first.second ≤ s → s < f → clockFrom first.offset changes s < L) ∧
      (∀ s, f ≤ s → L ≤ clockFrom first.offset changes s) ∧
      (clockFrom first.offset changes f - L) % 900 = 0 := by
  induction changes generalizing first with
  | nil =>
    refine ⟨L - first.offset, by omega, fun s _ _ => ?_, fun s _ => ?_, ?_⟩ <;>
      simp only [clockFrom, offsetFrom] <;> omega
  | cons change rest ih =>
    obtain ⟨hlt, -, hrest⟩ := ascends_cons.1 h
    have hspan {s : Int} (hs : s < change.second) :
        clockFrom first.offset (change :: rest) s = s + first.offset := clockFrom_cons_of_lt hs
    have hlater {s : Int} (hs : change.second ≤ s) :
        clockFrom first.offset (change :: rest) s = clockFrom change.offset rest s :=
      clockFrom_cons_of_le hs
    have hafter {s : Int} (hs : change.second ≤ s) :
        change.second + change.offset ≤ clockFrom change.offset rest s :=
      clockFrom_start_le hrest hs
    unfold reachesOnce at honce
    split at honce
    next hbefore =>
      split at honce
      next hreached =>
        -- the change leads to the local second or over it
        refine ⟨change.second, by omega, fun s _ hs => ?_, fun s hs => ?_, ?_⟩
        · rw [hspan hs]
          omega
        · have := hafter hs
          rw [hlater hs]
          omega
        · rw [hlater (Int.le_refl _), clockFrom_start hrest]
          exact of_decide_eq_true honce
      next hunreached =>
        obtain ⟨f, hf, hless, hmore, haligned⟩ := ih hrest (by omega) honce
        refine ⟨f, by omega, fun s hs hsf => ?_, fun s hs => ?_, ?_⟩
        · rcases Int.lt_or_le s change.second with hs' | hs'
          · rw [hspan hs']
            omega
          · rw [hlater hs']
            exact hless s hs' hsf
        · rw [hlater (by omega)]
          exact hmore s hs
        · rwa [hlater hf]
    next hwithin =>
      -- the span shows the local second itself
      have hnext := of_decide_eq_true honce
      refine ⟨L - first.offset, by omega, fun s _ _ => ?_, fun s hs => ?_, ?_⟩
      · rw [hspan (by omega)]
        omega
      · rcases Int.lt_or_le s change.second with hs' | hs'
        · rw [hspan hs']
          omega
        · have := hafter hs'
          rw [hlater hs']
          omega
      · rw [hspan (by omega)]
        omega

theorem beginsPlainly_of_beginsOnce (hz : z.IsOrdered) (h : z.beginsOnce d = true) :
    z.BeginsPlainly d := by
  simp only [beginsOnce, Bool.and_eq_true, decide_eq_true_eq] at h
  obtain ⟨f, hf, hless, hmore, haligned⟩ := exists_first_of_reachesOnce hz h.1 h.2
  have hless : ∀ s, firstSecond ≤ s → s < f → z.clock s < d.day * 86400 := hless
  have hmore : ∀ s, f ≤ s → d.day * 86400 ≤ z.clock s := hmore
  have haligned : (z.clock f - d.day * 86400) % 900 = 0 := haligned
  have hreached (t : Instant) (ht : t.inCalendar = true) :
      d ≤ z.localDate t ↔ f ≤ t.second := by
    rw [le_localDate_iff]
    constructor
    · intro hle
      have := hless t.second (t.inCalendar_iff.1 ht).1
      omega
    · exact hmore t.second
  refine ⟨fun t u ht hu htu hd => ?_, fun t ht hd hbefore => ?_⟩
  · have hft := (hreached t ht).1 hd
    refine (hreached u hu).2 ?_
    simp only [Moment.le_iff] at htu
    omega
  · have hft := (hreached t ht).1 hd
    have hlast := (t.inCalendar_iff.1 ht).2
    have hin : Moment.inCalendar ⟨f, 0⟩ = true :=
      (Moment.inCalendar_iff _).2 ⟨hf, by dsimp only; omega⟩
    have hsecond : t.second = f := by
      by_contra hne
      have hshown := (hreached ⟨f, 0⟩ hin).2 (Int.le_refl f)
      have hnot := hbefore ⟨f, 0⟩ hin (Or.inl (by dsimp only; omega))
      simp only [Date.le_iff, Date.lt_iff] at hshown hnot
      omega
    simp only [localTime_eq, Moment.secondOfDay, Moment.secondsPerDay, hsecond]
    omega

end RecordFilter.Zone
