import RecordFilter.Proofs.Calendar.Bounds
import RecordFilter.Proofs.Calendar.WrittenMoments
import RecordFilter.Proofs.Filter.TimeOrder
import RecordFilter.Proofs.Filter.WholeMillis
/-!
# Windows cut off to the millisecond

Cutting off takes less than a millisecond from an instant. So a whole millisecond stays on its side
of a bound, unless it is what the bound was cut off to: then it has come to lie at the bound. The
bounds of a rolling window have the fraction of the present, up to whole milliseconds, so either
both of them stay where they are or both are moved.

## Main definitions

* `Window.toMillis` — the window with its bounds cut off.

## Main statements

* `Window.contains_toMillis_iff_of_ne` — cutting off matters at the new bounds only.
* `DateContext.isProper_of_window` — the bounds of a window can be written.
* `DateContext.toMillis_of_window` — the windows that cutting off leaves as they are.
* `DateContext.contains_toMillis_of_window_iff` — those that hold the same whole milliseconds after
  it.
-/
namespace RecordFilter

namespace Moment

variable {t u : Moment}

theorem not_isLeapSecond_iff : t.isLeapSecond = false ↔ t.nano < 1000000000 := by
  rw [← Bool.not_eq_true, isLeapSecond_iff, Nat.not_le]

/-! ## Cutting off -/

theorem toMillis_eq_self (h : t.nano % 1000000 = 0) : t.toMillis = t := by
  cases t
  simp only [toMillis, mk.injEq, true_and] at h ⊢
  omega

theorem toMillis_lt_iff : t.toMillis < t ↔ t.nano % 1000000 ≠ 0 := by
  simp only [lt_iff, toMillis, Int.lt_irrefl, true_and, false_or]
  omega

theorem isWhole_toMillis (h : t.isLeapSecond = false) : t.toMillis.IsWhole := by
  rw [not_isLeapSecond_iff] at h
  refine ⟨Nat.mul_mod_left _ _, not_isLeapSecond_iff.2 ?_⟩
  simp only [toMillis]
  omega

theorem toMillis_le_iff (h : t.IsWhole) : u.toMillis ≤ t ↔ u ≤ t ∨ t = u.toMillis := by
  have hmillis := h.1
  cases t
  simp only [le_iff, toMillis, mk.injEq] at hmillis ⊢
  omega

theorem lt_toMillis_iff (h : t.IsWhole) : t < u.toMillis ↔ t < u ∧ t ≠ u.toMillis := by
  simpa [← not_lt] using not_congr (toMillis_le_iff (u := u) h)

/-! ## Instants that can be written -/

theorem isProper_of_nano_lt (h : t.nano < 1000000000) : t.IsProper where
  nano := by omega
  leap := by simp [not_isLeapSecond_iff.2 h]

theorem IsWhole.isProper (h : t.IsWhole) : t.IsProper :=
  isProper_of_nano_lt h.nano_lt

theorem IsProper.shownNano_lt (h : t.IsProper) : t.shownNano < 1000000000 := by
  have := h.nano
  by_cases hl : t.isLeapSecond = true
  · rw [shownNano_of_leap hl]
    omega
  · rw [shownNano_of_not_leap hl]
    exact not_isLeapSecond_iff.1 (Bool.eq_false_iff.2 hl)

theorem shownNano_mod (t : Moment) : t.shownNano % 1000000 = t.nano % 1000000 := by
  by_cases hl : t.isLeapSecond = true
  · have := isLeapSecond_iff.1 hl
    rw [shownNano_of_leap hl]
    omega
  · rw [shownNano_of_not_leap hl]

/-! ## Moved instants -/

/-- Whole seconds keep the fraction that is shown, and lead out of a leap second. -/
theorem addSeconds?_cases {n : Int} (h : t.addSeconds? n = some u) :
    u = t ∨ u.nano = t.shownNano := by
  rw [eq_of_checked h, addSeconds, shownNano]
  split
  · split
    · exact Or.inr rfl
    · split
      · exact Or.inr rfl
      · exact Or.inl rfl
  · exact Or.inr rfl

/-- Months keep the time of day. -/
theorem addMonths?_eq_some {n : Int} (h : t.addMonths? n = some u) :
    u.nano = t.nano ∧ u.second % 60 = t.second % 60 := by
  unfold addMonths? at h
  split at h
  · cases h
    exact ⟨rfl, rfl⟩
  · obtain ⟨d, -, rfl⟩ := Option.map_eq_some_iff.1 h
    refine ⟨rfl, ?_⟩
    simp only [secondsPerDay]
    omega

end Moment

namespace Window

/-- The window with its bounds cut off to the millisecond. -/
def toMillis : Window → Window
  | between start finish => between start.toMillis finish.toMillis
  | since start => since start.toMillis
  | before finish => before finish.toMillis

variable {w : Window} {t : Instant}

@[simp] theorem start?_toMillis : w.toMillis.start? = w.start?.map Moment.toMillis := by
  cases w <;> rfl

@[simp] theorem finish?_toMillis : w.toMillis.finish? = w.finish?.map Moment.toMillis := by
  cases w <;> rfl

theorem contains_iff :
    w.Contains t ↔ (∀ b ∈ w.start?, b ≤ t) ∧ ∀ b ∈ w.finish?, t < b := by
  cases w <;> simp [Contains, start?, finish?]

theorem toMillis_eq_self (h : w.BoundedBy fun b => b.nano % 1000000 = 0) : w.toMillis = w := by
  cases w with
  | between start finish =>
    obtain ⟨hstart, hfinish⟩ := boundedBy_between.1 h
    rw [toMillis, Moment.toMillis_eq_self hstart, Moment.toMillis_eq_self hfinish]
  | since start => rw [toMillis, Moment.toMillis_eq_self (boundedBy_since.1 h)]
  | before finish => rw [toMillis, Moment.toMillis_eq_self (boundedBy_before.1 h)]

/-- Cutting off matters at the new bounds only. -/
theorem contains_toMillis_iff_of_ne (ht : t.IsWhole)
    (hne : w.BoundedBy fun b => t ≠ b.toMillis) : w.toMillis.Contains t ↔ w.Contains t := by
  cases w with
  | between start finish =>
    obtain ⟨hstart, hfinish⟩ := boundedBy_between.1 hne
    simp [toMillis, Contains, Moment.toMillis_le_iff ht, Moment.lt_toMillis_iff ht, hstart, hfinish]
  | since start =>
    simp [toMillis, Contains, Moment.toMillis_le_iff ht, boundedBy_since.1 hne]
  | before finish =>
    simp [toMillis, Contains, Moment.lt_toMillis_iff ht, boundedBy_before.1 hne]

/-- A window both of whose bounds are moved holds other whole milliseconds than before, unless
there is nothing left between the bounds. -/
theorem contains_toMillis_iff_of_moved (hleap : w.BoundedBy fun b => b.isLeapSecond = false)
    (hmoved : w.BoundedBy fun b => b.toMillis < b) :
    (∀ t : Instant, t.IsWhole → (w.toMillis.Contains t ↔ w.Contains t)) ↔
      ∀ t, ¬ w.toMillis.Contains t := by
  cases w with
  | between start finish =>
    obtain ⟨hstart, -⟩ := boundedBy_between.1 hmoved
    have hwhole := Moment.isWhole_toMillis (boundedBy_between.1 hleap).1
    constructor
    · intro h t ⟨hle, hlt⟩
      -- the start is cut off to an instant in front of it
      have hcut : (between start finish).toMillis.Contains start.toMillis :=
        ⟨Moment.le_refl _, Moment.lt_of_le_of_lt hle hlt⟩
      exact (Moment.not_lt _ _).2 ((h _ hwhole).1 hcut).1 hstart
    · intro h t ht
      refine iff_of_false (h t) fun ⟨hle, hlt⟩ => ?_
      by_cases hcut : t = finish.toMillis
      · subst hcut
        exact h start.toMillis ⟨Moment.le_refl _, Moment.lt_of_lt_of_le hstart hle⟩
      · exact h t ⟨(Moment.toMillis_le_iff ht).2 (Or.inl hle),
          (Moment.lt_toMillis_iff ht).2 ⟨hlt, hcut⟩⟩
  | since start =>
    have hstart := boundedBy_since.1 hmoved
    have hcut : (since start).toMillis.Contains start.toMillis := Moment.le_refl _
    have hwhole := Moment.isWhole_toMillis (boundedBy_since.1 hleap)
    exact iff_of_false (fun h => (Moment.not_lt _ _).2 ((h _ hwhole).1 hcut) hstart)
      fun h => h _ hcut
  | before finish =>
    have hfinish := boundedBy_before.1 hmoved
    have hwhole := Moment.isWhole_toMillis (boundedBy_before.1 hleap)
    have hcut : ¬ (before finish).toMillis.Contains finish.toMillis :=
      (Moment.not_lt _ _).2 (Moment.le_refl _)
    have hearlier : (before finish).toMillis.Contains ⟨finish.second - 1, 0⟩ := by
      simp only [toMillis, Contains, Moment.lt_iff, Moment.toMillis]
      omega
    exact iff_of_false (fun h => hcut ((h _ hwhole).2 hfinish)) fun h => h _ hearlier

end Window

namespace DateContext

variable {c : DateContext} {o : DateOperator} {v : Json} {w : Window} {t : Instant}

/-- A moved present is at the same time of its minute, or shows the same fraction elsewhere. -/
theorem moved?_cases {unit : TimeUnit} {count : Int} (h : c.moved? unit count = some t) :
    (t.nano = c.now.nano ∧ t.second % 60 = c.now.second % 60) ∨ t.nano = c.now.shownNano := by
  have hseconds {n : Int} (h : c.now.addSeconds? n = some t) :
      (t.nano = c.now.nano ∧ t.second % 60 = c.now.second % 60) ∨ t.nano = c.now.shownNano :=
    (Moment.addSeconds?_cases h).imp (fun ht => by rw [ht]; exact ⟨rfl, rfl⟩) id
  cases unit with
  | months => exact Or.inl (Moment.addMonths?_eq_some h)
  | years => exact Or.inl (Moment.addMonths?_eq_some h)
  | _ => exact hseconds h

theorem isProper_of_moved? (hnow : c.now.IsProper) {unit : TimeUnit} {count : Int}
    (h : c.moved? unit count = some t) : t.IsProper := by
  rcases moved?_cases h with ⟨hnano, hsecond⟩ | hnano
  · refine ⟨hnano ▸ hnow.nano, fun hl => hsecond ▸ hnow.leap ?_⟩
    rwa [Moment.isLeapSecond_iff, ← hnano, ← Moment.isLeapSecond_iff]
  · exact Moment.isProper_of_nano_lt (hnano ▸ hnow.shownNano_lt)

/-- The bounds of the window of a date operator can be written. -/
theorem isProper_of_window (hnow : c.now.IsProper) (h : c.window o v = .ok w) :
    w.BoundedBy Moment.IsProper := by
  cases o with
  | rolling direction unit =>
    exact boundedBy_of_rolling hnow (fun _ _ _ => isProper_of_moved? hnow) h
  | _ => exact boundedBy_of_window (fun _ _ hd => (isWhole_of_midnight hd).isProper) (by simp) h

/-- A window that follows the calendar, or is measured from a whole millisecond, is not changed. -/
theorem toMillis_of_window (h : c.window o v = .ok w)
    (ho : (∀ direction unit, o ≠ .rolling direction unit) ∨ c.now.nano % 1000000 = 0) :
    w.toMillis = w := by
  by_cases hcalendar : ∀ direction unit, o ≠ .rolling direction unit
  · exact Window.toMillis_eq_self
      (boundedBy_of_window (fun _ _ hd => (isWhole_of_midnight hd).1) hcalendar h)
  · have hnow := ho.resolve_left hcalendar
    obtain ⟨direction, unit, rfl⟩ : ∃ direction unit, o = .rolling direction unit := by
      simpa using hcalendar
    refine Window.toMillis_eq_self (boundedBy_of_rolling hnow (fun _ _ t ht => ?_) h)
    rcases moved?_cases ht with ⟨hnano, -⟩ | hnano
    · rw [hnano, hnow]
    · rw [hnano, Moment.shownNano_mod, hnow]

/-- The windows that hold the same whole milliseconds after cutting off. -/
theorem contains_toMillis_of_window_iff (hnow : c.now.isLeapSecond = false)
    (h : c.window o v = .ok w) :
    (∀ t : Instant, t.IsWhole → (w.toMillis.Contains t ↔ w.Contains t)) ↔
      (∀ direction unit, o ≠ .rolling direction unit) ∨ c.now.nano % 1000000 = 0 ∨
        ∀ t, ¬ w.toMillis.Contains t := by
  by_cases hsame : (∀ direction unit, o ≠ .rolling direction unit) ∨ c.now.nano % 1000000 = 0
  · have hself := toMillis_of_window h hsame
    simp only [hself, ← or_assoc, hsame, true_or, implies_true]
  · simp only [← or_assoc, hsame, false_or]
    obtain ⟨⟨direction, unit, rfl⟩, hmillis⟩ : (∃ direction unit, o = .rolling direction unit) ∧
        c.now.nano % 1000000 ≠ 0 := by
      simpa [not_or] using hsame
    have hnano : w.BoundedBy fun b => b.nano = c.now.nano := by
      refine boundedBy_of_rolling rfl (fun _ _ t ht => ?_) h
      rcases moved?_cases ht with ⟨hnano, -⟩ | hnano
      · exact hnano
      · rw [hnano, Moment.shownNano_of_not_leap (by simp [hnow])]
    refine Window.contains_toMillis_iff_of_moved (fun b hb => ?_) fun b hb => ?_
    · exact Moment.not_isLeapSecond_iff.2 (hnano b hb ▸ Moment.not_isLeapSecond_iff.1 hnow)
    · exact Moment.toMillis_lt_iff.2 (hnano b hb ▸ hmillis)

end DateContext
end RecordFilter
