import RecordFilter.Proofs.Calendar.DayOrder
import RecordFilter.Proofs.Filter.TimeOrder
/-!
# Local times in order

Local times that the clocks show are first shown in their order. A local time that is skipped stands
for one up to some hours later, reached in quarters of an hour, and that may lie behind the one that
a later local time stands for. This can only happen to the earlier one of two local times, and only
by less than a quarter of an hour where clocks run on for as long before or after they are changed.

## Main definitions

* `Zone.IsSpaced` — zones whose changes are half an hour apart or more.

## Main statements

* `Zone.IsOrdered.le_iff_localTime_le` — instants that are found, by what the clocks show there.
* `Zone.clockFrom_steady` — clocks that run on for a quarter of an hour, or have done so.
* `Zone.IsOrdered.resolve_le_of_shown`, `Zone.IsOrdered.resolve_le_of_quartersLater`,
  `Zone.IsOrdered.resolve_le_of_apart` — local times that keep their order.
* `Zone.IsOrdered.second_resolve_lt` — by how much the others may lose it.
-/
namespace RecordFilter

theorem Moment.quartersLater_mono {k q : Nat} (h : k ≤ q) (t : Moment) :
    t.quartersLater k ≤ t.quartersLater q := by
  rcases Nat.lt_or_eq_of_le h with hlt | rfl
  · rw [le_iff, second_quartersLater, second_quartersLater]
    omega
  · exact Moment.le_refl _

namespace Zone

variable {z : Zone} {a b time time' : LocalTime} {s t u : Instant} {L x : Int}

/-! ## What is found -/

/-- The clocks show a local time at the instant that is found for it. -/
theorem IsOrdered.localTime_of_instant? (hz : z.IsOrdered) (h : z.instant? time = some t) :
    z.localTime t = time := by
  obtain ⟨hnano, hclock, -, -⟩ := (instant?_eq_some_iff hz).1 h
  rw [localTime_eq, hclock, hnano]

/-- Instants that are found are in the order of the local seconds that they are found for. -/
theorem IsOrdered.second_lt_iff (hz : z.IsOrdered) (h : z.instant? time = some t)
    (h' : z.instant? time' = some u) : t.second < u.second ↔ time.second < time'.second := by
  have hfirst := firstSecond?_of_instant? h
  have hfirst' := firstSecond?_of_instant? h'
  constructor
  · intro hlt
    by_contra hnot
    rcases Int.lt_or_eq_of_le (Int.not_lt.1 hnot) with hgt | heq
    · have := firstSecond?_lt hz (Or.inl rfl) hgt hfirst' hfirst
      omega
    · rw [heq, hfirst, Option.some.injEq] at hfirst'
      omega
  · exact fun hlt => firstSecond?_lt hz (Or.inl rfl) hlt hfirst hfirst'

/-- So they are in the order of what the clocks show there. -/
theorem IsOrdered.le_iff_localTime_le (hz : z.IsOrdered) (h : z.instant? time = some t)
    (h' : z.instant? time' = some u) : t ≤ u ↔ z.localTime t ≤ z.localTime u := by
  obtain ⟨hnano, -⟩ := (instant?_eq_some_iff hz).1 h
  obtain ⟨hnano', -⟩ := (instant?_eq_some_iff hz).1 h'
  have hlt := hz.second_lt_iff h h'
  have hgt := hz.second_lt_iff h' h
  rw [hz.localTime_of_instant? h, hz.localTime_of_instant? h', Moment.le_iff, Moment.le_iff]
  omega

/-- A local time that is shown within the calendar is found there. -/
theorem IsOrdered.exists_instant? (hz : z.IsOrdered) (ht : t.inCalendar = true)
    (hclock : z.clock t.second = time.second) : ∃ u, z.instant? time = some u := by
  obtain ⟨hstart, hend⟩ := t.inCalendar_iff.1 ht
  obtain ⟨hsome, hnone⟩ := firstSecond?_spec (L := time.second) hz (Or.inl rfl)
  cases hfirst : firstSecond? none z.initialOffset z.changes time.second with
  | none => exact absurd ⟨rfl, hclock⟩ (hnone hfirst t.second)
  | some x =>
    obtain ⟨⟨-, hx⟩, hleast⟩ := hsome x hfirst
    have hx : z.clock x = time.second := hx
    have hle : x ≤ t.second := hleast t.second ⟨rfl, hclock⟩
    -- before the calendar clocks show less than anywhere in it
    have hge : firstSecond ≤ x := Int.not_lt.1 fun hbefore => by
      have := hz.clock_before hbefore
      have := hz.clock_firstSecond_le hstart
      omega
    exact ⟨⟨x, time.nano⟩, (instant?_eq_some_iff hz).2 ⟨rfl, hx, fun y hy => hleast y ⟨rfl, hy⟩,
      (Moment.inCalendar_iff _).2 ⟨hge, by dsimp only; omega⟩⟩⟩

theorem IsOrdered.clock_ne_of_instant? (hz : z.IsOrdered) (h : z.instant? time = none)
    (ht : t.inCalendar = true) : z.clock t.second ≠ time.second := by
  intro hclock
  obtain ⟨u, hu⟩ := hz.exists_instant? ht hclock
  rw [h] at hu
  cases hu

/-! ## Local times that keep their order -/

/-- What a local time stands for is not shown before it. -/
theorem IsOrdered.le_localTime_resolve (hz : z.IsOrdered) (h : z.resolve b = .ok t) :
    b ≤ z.localTime t := by
  obtain ⟨q, -, hq, -⟩ := resolve_eq_ok h
  rw [hz.localTime_of_instant? hq]
  exact Moment.quartersLater_mono (Nat.zero_le q) b

theorem IsOrdered.resolve_le_iff (hz : z.IsOrdered) (ha : z.resolve a = .ok s)
    (hb : z.resolve b = .ok t) : s ≤ t ↔ z.localTime s ≤ z.localTime t := by
  obtain ⟨q, -, hq, -⟩ := resolve_eq_ok ha
  obtain ⟨k, -, hk, -⟩ := resolve_eq_ok hb
  exact hz.le_iff_localTime_le hq hk

/-- A local time that is shown is the first that is tried. -/
theorem IsOrdered.resolve_le_of_shown (hz : z.IsOrdered) (hab : a ≤ b) (ha : z.resolve a = .ok s)
    (hb : z.resolve b = .ok t) (hu : u.inCalendar = true) (hshown : z.localTime u = a) :
    s ≤ t := by
  obtain ⟨q, -, hq, hbefore⟩ := resolve_eq_ok ha
  obtain ⟨v, hv⟩ : ∃ v, z.instant? a = some v :=
    hz.exists_instant? hu (congrArg Moment.second hshown)
  have hzero : q = 0 := by
    by_contra hne
    have hnone := hbefore 0 (Nat.pos_of_ne_zero hne)
    simp [Moment.quartersLater, hv] at hnone
  subst hzero
  rw [hz.resolve_le_iff ha hb, hz.localTime_of_instant? hq]
  exact Moment.le_trans hab (hz.le_localTime_resolve hb)

/-- A number of quarters of an hour later, the same local times are tried. -/
theorem IsOrdered.resolve_le_of_quartersLater (hz : z.IsOrdered) {k : Nat}
    (ha : z.resolve a = .ok s) (hb : z.resolve (a.quartersLater k) = .ok t) : s ≤ t := by
  obtain ⟨q, -, hq, hbefore⟩ := resolve_eq_ok ha
  obtain ⟨j, -, hj, -⟩ := resolve_eq_ok hb
  rw [← Moment.quartersLater_add] at hj
  rw [hz.resolve_le_iff ha hb, hz.localTime_of_instant? hq, hz.localTime_of_instant? hj]
  -- nothing before the place where the earlier search ended is shown
  have hle : q ≤ k + j := by
    by_contra hlt
    rw [hbefore (k + j) (by omega)] at hj
    cases hj
  exact Moment.quartersLater_mono hle a

/-- No search leads farther than four hours. -/
theorem IsOrdered.resolve_le_of_apart (hz : z.IsOrdered) (ha : z.resolve a = .ok s)
    (hb : z.resolve b = .ok t) (hapart : a.second + 14400 ≤ b.second) : s ≤ t := by
  obtain ⟨q, hq, hs, -⟩ := resolve_eq_ok ha
  rw [hz.resolve_le_iff ha hb, hz.localTime_of_instant? hs]
  refine Moment.le_trans (Or.inl ?_) (hz.le_localTime_resolve hb)
  rw [Moment.second_quartersLater]
  simp only [searchSteps] at hq
  omega

/-! ## Clocks that run on -/

/-- From a second on, changes are half an hour apart or more. -/
def spaced : Int → List Change → Bool
  | _, [] => true
  | second, change :: rest => second + 1800 ≤ change.second && spaced change.second rest

/-- All changes of the zone are half an hour apart or more. -/
def IsSpaced (z : Zone) : Prop := spaced firstSecond z.changes = true

instance (z : Zone) : Decidable z.IsSpaced := inferInstanceAs (Decidable (_ = true))

/-- Clocks run on for a quarter of an hour, or they have done so since the start. -/
theorem clockFrom_steady (offset : Int) {start : Int} {changes : List Change}
    (h : spaced start changes = true) (hx : start ≤ x) :
    (∀ e, 0 ≤ e → e < 900 →
        clockFrom offset changes (x + e) = clockFrom offset changes x + e) ∨
      ∀ e, 0 ≤ e → e < 900 → start ≤ x - e ∧
        clockFrom offset changes (x - e) = clockFrom offset changes x - e := by
  induction changes generalizing offset start with
  | nil =>
    left
    intro e _ _
    simp only [clockFrom, offsetFrom]
    omega
  | cons change rest ih =>
    simp only [spaced, Bool.and_eq_true, decide_eq_true_eq] at h
    obtain ⟨hstart, hrest⟩ := h
    rcases Int.lt_or_le x change.second with hlt | hge
    · by_cases hnear : x + 900 ≤ change.second
      · left
        intro e _ _
        rw [clockFrom_cons_of_lt (by omega), clockFrom_cons_of_lt hlt]
        omega
      · right
        intro e _ _
        rw [clockFrom_cons_of_lt (by omega), clockFrom_cons_of_lt hlt]
        omega
    · refine (ih change.offset hrest hge).imp (fun hahead e he he' => ?_)
        fun hback e he he' => ?_
      · rw [clockFrom_cons_of_le (by omega), clockFrom_cons_of_le hge]
        exact hahead e he he'
      · obtain ⟨hsince, hclock⟩ := hback e he he'
        rw [clockFrom_cons_of_le hsince, clockFrom_cons_of_le hge]
        exact ⟨by omega, hclock⟩

/-- Of two local seconds a quarter of an hour apart, between which the clocks are, they show the
second one soon or have shown the first one just before. -/
theorem IsSpaced.exists_clock_near (h : z.IsSpaced) (hx : firstSecond ≤ x)
    (h₀ : L < z.clock x) (h₁ : z.clock x < L + 900) :
    (∃ y, firstSecond ≤ y ∧ y < x + 900 ∧ z.clock y = L + 900) ∨
      ∃ y, firstSecond ≤ y ∧ y < x ∧ z.clock y = L := by
  rcases clockFrom_steady z.initialOffset h hx with hahead | hback
  · left
    have hshown := hahead (L + 900 - z.clock x) (by omega) (by omega)
    refine ⟨x + (L + 900 - z.clock x), by omega, by omega, ?_⟩
    unfold clock at *
    omega
  · right
    obtain ⟨hsince, hshown⟩ := hback (z.clock x - L) (by omega) (by omega)
    refine ⟨x - (z.clock x - L), hsince, by omega, ?_⟩
    unfold clock at *
    omega

/-- What an earlier local time stands for comes less than a quarter of an hour after what a later
one does. -/
theorem IsOrdered.second_resolve_lt (hz : z.IsOrdered)
    (hspaced : z.IsSpaced) (hab : a ≤ b) (ha : z.resolve a = .ok s) (hb : z.resolve b = .ok t) :
    s.second < t.second + 900 := by
  obtain ⟨q, -, hq, hbefore⟩ := resolve_eq_ok ha
  obtain ⟨k, -, hk, -⟩ := resolve_eq_ok hb
  obtain ⟨-, -, hleast, hs⟩ := (instant?_eq_some_iff hz).1 hq
  obtain ⟨-, hclock, -, ht⟩ := (instant?_eq_some_iff hz).1 hk
  obtain ⟨hs₀, hs₁⟩ := s.inCalendar_iff.1 hs
  obtain ⟨ht₀, ht₁⟩ := t.inCalendar_iff.1 ht
  rcases Int.lt_or_le t.second s.second with hlost | hkept
  case inr => omega
  have hskipped (i : Nat) (hi : i < q) {x : Int} (hx₀ : firstSecond ≤ x) (hx₁ : x < s.second) :
      z.clock x ≠ a.second + 900 * i := by
    rw [← Moment.second_quartersLater]
    exact hz.clock_ne_of_instant? (t := ⟨x, 0⟩) (hbefore i hi)
      ((Moment.inCalendar_iff _).2 ⟨hx₀, by dsimp only; omega⟩)
  -- the later local time leads to between two that were tried for the earlier one
  obtain ⟨i, hi, hi₀, hi₁⟩ : ∃ i : Nat, i < q ∧ a.second + 900 * i < z.clock t.second ∧
      z.clock t.second < a.second + 900 * i + 900 := by
    have hshort := (hz.second_lt_iff hk hq).1 hlost
    have hlong := Moment.le_trans hab (hz.le_localTime_resolve hb)
    rw [hz.localTime_of_instant? hk, Moment.le_iff, ← hclock] at hlong
    rw [← hclock, Moment.second_quartersLater] at hshort
    have hi : ((z.clock t.second - a.second) / 900).toNat < q := by omega
    have := hskipped _ hi ht₀ hlost
    exact ⟨_, hi, by omega, by omega⟩
  rcases hspaced.exists_clock_near ht₀ hi₀ hi₁ with ⟨x, hx₀, hx₁, hx⟩ | ⟨x, hx₀, hx₁, hx⟩
  · -- the second one is shown soon, and by then the search has ended
    have hnext : z.clock x = a.second + 900 * (i + 1 : Nat) := by
      push_cast
      omega
    by_contra hlate
    have hend : i + 1 = q := by
      by_contra hne
      exact hskipped (i + 1) (by omega) hx₀ (by omega) hnext
    have := hleast x (by rw [hnext, hend, Moment.second_quartersLater])
    omega
  · exact absurd hx (hskipped i hi hx₀ (by omega))

end Zone
end RecordFilter
