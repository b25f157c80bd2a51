import Mathlib.Data.Int.LeastGreatest
import RecordFilter.Proofs.Calendar.Bounds
import RecordFilter.Proofs.Calendar.ZoneClocks
/-!
# Where days start

The start of a date is looked for at midnight and, where clocks skip it, in steps of a quarter of an
hour. So it is the first instant of the date exactly if the clocks begin the date once and for all,
at midnight or a whole number of quarters after it.

## Main definitions

* `Zone.IsDayStart` — an instant from which on, and not before, a date or a later one is shown.
* `Zone.BeginsPlainly` — dates that the clocks begin once, at a quarter of an hour.
* `Moment.quartersLater` — the local times that are tried one after the other.

## Main statements

* `Zone.resolve_eq_ok` — where a search ends.
* `Zone.isDayStart_midnight_iff` — when the start that is found is that of the date.
-/
namespace RecordFilter

theorem Moment.inCalendar_iff (t : Moment) :
    t.inCalendar = true ↔
      Zone.firstSecond ≤ t.second ∧ t.second < (Date.lastDay + 1) * 86400 := by
  rw [inCalendar, Date.inCalendar, Bool.and_eq_true, decide_eq_true_eq, decide_eq_true_eq]
  simp only [date, Zone.firstSecond, secondsPerDay]
  omega

/-- So many quarters of an hour later, one after the other. -/
def Moment.quartersLater : Nat → Moment → Moment
  | 0, t => t
  | q + 1, t => quartersLater q (t.addSeconds Zone.stepSeconds)

namespace Moment

variable {t : Moment}

theorem second_quartersLater (q : Nat) (t : Moment) :
    (t.quartersLater q).second = t.second + 900 * q := by
  induction q generalizing t with
  | zero => simp [quartersLater]
  | succ q ih =>
    have hstep : (t.addSeconds Zone.stepSeconds).second = t.second + 900 := by
      unfold addSeconds
      split <;> rfl
    rw [quartersLater, ih, hstep]
    push_cast
    omega

theorem quartersLater_of_not_leap (h : t.isLeapSecond = false) (q : Nat) :
    t.quartersLater q = ⟨t.second + 900 * q, t.nano⟩ := by
  induction q generalizing t with
  | zero => simp [quartersLater]
  | succ q ih =>
    have hstep : t.addSeconds Zone.stepSeconds = ⟨t.second + 900, t.nano⟩ := by
      simp [addSeconds, h, Zone.stepSeconds]
    rw [quartersLater, hstep, @ih ⟨t.second + 900, t.nano⟩ h]
    congr 1
    push_cast
    omega

theorem quartersLater_add (k q : Nat) (t : Moment) :
    t.quartersLater (k + q) = (t.quartersLater k).quartersLater q := by
  induction k generalizing t with
  | zero => rw [Nat.zero_add, quartersLater]
  | succ k ih => rw [Nat.succ_add, quartersLater, quartersLater, ih]

end Moment

namespace Zone

variable {z : Zone} {d : Date} {m : Instant}

/-- From the instant on a date or a later one is shown, and an earlier one before it. -/
def IsDayStart (z : Zone) (d : Date) (m : Instant) : Prop :=
  ∀ t : Instant, t.inCalendar = true → (m ≤ t ↔ d ≤ z.localDate t)

/-- Once the date is reached, clocks do not go back behind its start, and they reach it at midnight
or a whole number of quarters of an hour later. -/
structure BeginsPlainly (z : Zone) (d : Date) : Prop where
  once : ∀ t u : Instant, t.inCalendar = true → u.inCalendar = true → t ≤ u →
    d ≤ z.localDate t → d ≤ z.localDate u
  quarter : ∀ t : Instant, t.inCalendar = true → d ≤ z.localDate t →
    (∀ u : Instant, u.inCalendar = true → u < t → z.localDate u < d) →
    (z.localTime t).secondOfDay % 900 = 0

theorem le_localDate_iff (t : Instant) :
    d ≤ z.localDate t ↔ d.day * 86400 ≤ z.clock t.second := by
  simp only [Date.le_iff, localDate, localTime_eq, Moment.date, Moment.secondsPerDay]
  omega

theorem localDate_lt_iff (t : Instant) :
    z.localDate t < d ↔ z.clock t.second < d.day * 86400 := by
  simp only [Date.lt_iff, localDate, localTime_eq, Moment.date, Moment.secondsPerDay]
  omega

/-! ## What the search finds -/

/-- The search ends at the first of its steps that is shown. -/
theorem search_eq_some {n : Nat} {time : LocalTime} (h : z.search n time = .ok (some m)) :
    ∃ q : Nat, q < n ∧ z.instant? (time.quartersLater q) = some m ∧
      ∀ k : Nat, k < q → z.instant? (time.quartersLater k) = none := by
  induction n generalizing time with
  | zero => cases h
  | succ n ih =>
    unfold search at h
    split at h
    · next t ht =>
      cases h
      exact ⟨0, by omega, ht, by simp⟩
    · next hnone =>
      split at h
      · next later hlater =>
        obtain rfl := Moment.eq_of_checked hlater
        obtain ⟨q, hqn, hq, hbefore⟩ := ih h
        refine ⟨q + 1, by omega, hq, fun k hk => ?_⟩
        cases k with
        | zero => exact hnone
        | succ k => exact hbefore k (by omega)
      · cases h

/-- What a local time stands for is where it is shown, or the next quarter of an hour that is. -/
theorem resolve_eq_ok {time : LocalTime} (h : z.resolve time = .ok m) :
    ∃ q : Nat, q < searchSteps ∧ z.instant? (time.quartersLater q) = some m ∧
      ∀ k : Nat, k < q → z.instant? (time.quartersLater k) = none := by
  unfold resolve at h
  split at h
  · next t ht =>
    cases h
    exact search_eq_some ht
  · cases h
  · cases h

/-- The first instant at which a local time is shown, if that lies in the calendar. -/
theorem instant?_eq_some_iff (hz : z.IsOrdered) {time : LocalTime} :
    z.instant? time = some m ↔
      m.nano = time.nano ∧ z.clock m.second = time.second ∧
        (∀ s, z.clock s = time.second → m.second ≤ s) ∧ m.inCalendar = true := by
  obtain ⟨hsome, hnone⟩ := firstSecond?_spec (L := time.second) hz (Or.inl rfl)
  simp only [instant?]
  cases hfirst : firstSecond? none z.initialOffset z.changes time.second with
  | none =>
    simp only [Option.map_none, Option.bind_none, reduceCtorEq, false_iff]
    rintro ⟨-, hclock, -, -⟩
    exact hnone hfirst m.second ⟨rfl, hclock⟩
  | some s =>
    obtain ⟨⟨-, hclock⟩, hleast⟩ := hsome s hfirst
    simp only [Option.map_some, Option.bind_some, Moment.checked]
    constructor
    · intro h
      split at h
      · next hin =>
        cases h
        exact ⟨rfl, hclock, fun s' h' => hleast s' ⟨rfl, h'⟩, hin⟩
      · cases h
    · rintro ⟨hnano, hmclock, hmleast, hin⟩
      have hs : m.second = s := by
        have h1 := hmleast s hclock
        have h2 := hleast m.second ⟨rfl, hmclock⟩
        omega
      obtain rfl : m = ⟨s, time.nano⟩ := by rw [← hs, ← hnano]
      rw [if_pos hin]

/-- The start of a date is the first instant at which midnight or the next quarter of an hour is
shown that has one in the calendar. -/
theorem midnight_eq_ok (h : z.midnight d = .ok m) :
    ∃ q : Nat, q < searchSteps ∧ z.instant? ⟨d.day * 86400 + 900 * q, 0⟩ = some m ∧
      ∀ k : Nat, k < q → z.instant? ⟨d.day * 86400 + 900 * k, 0⟩ = none := by
  have hlater (q : Nat) :
      (Moment.midnight d).quartersLater q = ⟨d.day * 86400 + 900 * q, 0⟩ :=
    Moment.quartersLater_of_not_leap rfl q
  simpa only [hlater] using resolve_eq_ok h

/-! ## The start of a date -/

/-- The clocks at the first second of the calendar and after it. -/
theorem IsOrdered.clock_firstSecond_le (hz : z.IsOrdered) {s : Int} (hs : firstSecond ≤ s) :
    z.clock firstSecond ≤ z.clock s := by
  have hstart : z.clock firstSecond = firstSecond + z.initialOffset := clockFrom_start hz
  have hle : firstSecond + z.initialOffset ≤ z.clock s := clockFrom_start_le hz hs
  omega

/-- Before the first second of the calendar, clocks run towards it. -/
theorem IsOrdered.clock_before (hz : z.IsOrdered) {s : Int} (hs : s < firstSecond) :
    z.clock s = z.clock firstSecond - (firstSecond - s) := by
  have hstart : z.clock firstSecond = firstSecond + z.initialOffset := clockFrom_start hz
  have hbefore : z.clock s = s + z.initialOffset := by
    unfold clock
    unfold IsOrdered at hz
    cases hchanges : z.changes with
    | nil => rfl
    | cons change rest =>
      rw [hchanges] at hz
      have hchange : firstSecond < change.second := (ascends_cons.1 hz).1
      exact clockFrom_cons_of_lt (by omega)
  omega

/-- The first second of a date or a later one is where the clocks reach midnight, or nothing after
it is shown earlier. -/
theorem IsOrdered.clock_eq_or_le (hz : z.IsOrdered) {f M : Int} (hf : firstSecond ≤ f)
    (hM : M ≤ z.clock f) (hfirst : ∀ s, firstSecond ≤ s → s < f → z.clock s < M) :
    z.clock f = M ∨ ∀ s, f ≤ s → z.clock f ≤ z.clock s := by
  rcases Int.lt_or_eq_of_le hf with hlt | rfl
  · refine (clockFrom_succ_or_le hz hlt).imp_left fun hsucc => ?_
    have hsucc : z.clock f = z.clock (f - 1) + 1 := hsucc
    have hprev := hfirst (f - 1) (by omega) (by omega)
    omega
  · exact Or.inr fun s hs => hz.clock_firstSecond_le hs

/-- If the first second of a date shows a whole number of quarters after midnight, it is found. -/
theorem IsOrdered.midnight_eq_first (hz : z.IsOrdered) (h : z.midnight d = .ok m) {f : Int}
    (hf : firstSecond ≤ f) (hM : d.day * 86400 ≤ z.clock f)
    (hfirst : ∀ s, firstSecond ≤ s → d.day * 86400 ≤ z.clock s → f ≤ s)
    (hquarter : (z.clock f - d.day * 86400) % 900 = 0) : m = ⟨f, 0⟩ := by
  obtain ⟨q, -, hq, hbefore⟩ := midnight_eq_ok h
  obtain ⟨hnano, hclock, hleast, hin⟩ := (instant?_eq_some_iff hz).1 hq
  have hmin := (m.inCalendar_iff.1 hin)
  have hfm : f ≤ m.second := hfirst m.second hmin.1 (by simp only at hclock; omega)
  -- the quarter that the first second shows is found at that second
  have hshown : ∀ s, z.clock s = z.clock f → f ≤ s := by
    intro s hs
    by_cases hlt : s < firstSecond
    · have := hz.clock_before hlt
      have := hfirst firstSecond (by omega) (by omega)
      obtain rfl : f = firstSecond := by omega
      omega
    · exact hfirst s (by omega) (by omega)
  let k := ((z.clock f - d.day * 86400) / 900).toNat
  have hk : z.clock f = d.day * 86400 + 900 * k := by omega
  have hfound : z.instant? ⟨d.day * 86400 + 900 * k, 0⟩ = some ⟨f, 0⟩ :=
    (instant?_eq_some_iff hz).2 ⟨rfl, hk, fun s hs => hshown s (by simp only at hs; omega),
      (Moment.inCalendar_iff _).2 ⟨hf, by simp only; omega⟩⟩
  have hqk : q ≤ k := by
    refine Nat.le_of_not_lt fun hlt => ?_
    have := hbefore k hlt
    rw [hfound] at this
    cases this
  -- an earlier quarter is not shown from there on
  have hkq : k ≤ q := by
    simp only at hclock
    rcases hz.clock_eq_or_le hf hM (fun s h0 hs => Int.not_le.1 fun hle => by
      have := hfirst s h0 hle
      omega) with hmidnight | hle
    · omega
    · have := hle m.second hfm
      omega
  obtain rfl : q = k := Nat.le_antisymm hqk hkq
  rw [hfound] at hq
  exact (Option.some.inj hq).symm

/-- The start that is found is the first instant of the date exactly if the clocks begin the date
once, at a quarter of an hour. -/
theorem isDayStart_midnight_iff (hz : z.IsOrdered) (h : z.midnight d = .ok m) :
    z.IsDayStart d m ↔ z.BeginsPlainly d := by
  obtain ⟨q, -, hq, -⟩ := midnight_eq_ok h
  obtain ⟨hnano, hclock, -, hin⟩ := (instant?_eq_some_iff hz).1 hq
  have hclock : z.clock m.second = d.day * 86400 + 900 * q := hclock
  have hnano : m.nano = 0 := hnano
  constructor
  · intro hstart
    refine ⟨fun t u ht hu htu hd => ?_, fun t ht hd hbefore => ?_⟩
    · have hmt := (hstart t ht).2 hd
      refine (hstart u hu).1 ?_
      simp only [Moment.le_iff] at hmt htu ⊢
      omega
    · have hmt := (hstart t ht).2 hd
      have hm : d ≤ z.localDate m := (le_localDate_iff m).2 (by omega)
      have hnot : ¬ m < t := fun hlt => by
        have := hbefore m hin hlt
        simp only [Date.le_iff, Date.lt_iff] at hm this
        omega
      have hsecond : t.second = m.second := by
        simp only [Moment.le_iff, Moment.lt_iff] at hmt hnot
        omega
      simp only [localTime_eq, Moment.secondOfDay, Moment.secondsPerDay, hsecond, hclock]
      omega
  · intro hb t ht
    have hmin := m.inCalendar_iff.1 hin
    obtain ⟨f, ⟨hf, hM⟩, hleast⟩ := Int.exists_least_of_bdd
      (P := fun s => firstSecond ≤ s ∧ d.day * 86400 ≤ z.clock s) ⟨firstSecond, fun s hs => hs.1⟩
      ⟨m.second, hmin.1, by omega⟩
    have hfm := hleast m.second ⟨hmin.1, by omega⟩
    have hfin : Moment.inCalendar ⟨f, 0⟩ = true :=
      (Moment.inCalendar_iff _).2 ⟨hf, by simp only; omega⟩
    have hquarter := hb.quarter ⟨f, 0⟩ hfin ((le_localDate_iff _).2 hM) fun u hu hlt => by
      have hu := u.inCalendar_iff.1 hu
      refine (localDate_lt_iff u).2 (Int.not_le.1 fun hle => ?_)
      have := hleast u.second ⟨hu.1, hle⟩
      simp only [Moment.lt_iff] at hlt
      omega
    simp only [localTime_eq, Moment.secondOfDay, Moment.secondsPerDay] at hquarter
    obtain rfl := hz.midnight_eq_first h hf hM (fun s h0 hs => hleast s ⟨h0, hs⟩) (by omega)
    constructor
    · intro hmt
      exact hb.once _ t hfin ht hmt ((le_localDate_iff _).2 hM)
    · intro hd
      have := hleast t.second ⟨(t.inCalendar_iff.1 ht).1, (le_localDate_iff t).1 hd⟩
      simp only [Moment.le_iff]
      omega

end Zone
end RecordFilter
