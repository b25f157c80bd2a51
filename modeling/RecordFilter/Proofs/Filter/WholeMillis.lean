import RecordFilter.Proofs.Filter.WindowSources
/-!
# Windows bounded by whole milliseconds

Days start at whole seconds, and moving an instant keeps its fraction. So the bounds of a window are
whole milliseconds if the present is one.

## Main statements

* `DateContext.isWhole_of_window` — the bounds of the window of a date operator.
-/
namespace RecordFilter

/-- A whole millisecond, and no leap second. -/
def Moment.IsWhole (t : Moment) : Prop := t.nano % 1000000 = 0 ∧ t.isLeapSecond = false

/-- The bounds that a window has are whole milliseconds. -/
def Window.IsWhole (w : Window) : Prop := ∀ b ∈ w.start?.toList ++ w.finish?.toList, b.IsWhole

namespace Moment

variable {t u : Moment}

theorem isWhole_midnight (d : Date) : (midnight d).IsWhole := ⟨rfl, rfl⟩

theorem IsWhole.nano_lt (h : t.IsWhole) : t.nano < 1000000000 := by
  have := of_decide_eq_false h.2
  simpa [nanosPerSecond] using this

theorem IsWhole.of_nano_eq (h : t.IsWhole) (hn : u.nano = t.nano) : u.IsWhole := by
  obtain ⟨hmillis, hleap⟩ := h
  unfold isLeapSecond at hleap
  exact ⟨by rw [hn, hmillis], by rw [isLeapSecond, hn, hleap]⟩

theorem IsWhole.checked (h : t.IsWhole) (hu : t.checked = some u) : u.IsWhole := by
  unfold Moment.checked at hu
  split at hu <;> simp_all

theorem IsWhole.addSeconds? (h : t.IsWhole) {n : Int} (hu : t.addSeconds? n = some u) :
    u.IsWhole := by
  have hnano : (t.addSeconds n).nano = t.nano := by simp [addSeconds, h.2]
  exact (h.of_nano_eq hnano).checked hu

theorem IsWhole.addMonths? (h : t.IsWhole) {n : Int} (hu : t.addMonths? n = some u) :
    u.IsWhole := by
  unfold Moment.addMonths? at hu
  split at hu
  · obtain rfl : t = u := by simpa using hu
    exact h
  · obtain ⟨d, -, rfl⟩ := Option.map_eq_some_iff.1 hu
    exact h.of_nano_eq rfl

end Moment

namespace Zone

variable {z : Zone} {time : LocalTime} {t : Instant}

theorem isWhole_of_instant? (h : time.IsWhole) (ht : z.instant? time = some t) : t.IsWhole := by
  obtain ⟨m, hm, hchecked⟩ := Option.bind_eq_some_iff.1 ht
  obtain ⟨s, -, rfl⟩ := Option.map_eq_some_iff.1 hm
  have hm : (⟨s, time.nano⟩ : Moment).IsWhole := h.of_nano_eq rfl
  exact hm.checked hchecked

theorem isWhole_of_search {n : Nat} (h : time.IsWhole) (ht : z.search n time = .ok (some t)) :
    t.IsWhole := by
  induction n generalizing time with
  | zero => cases ht
  | succ n ih =>
    unfold search at ht
    split at ht
    · next u hu =>
      cases ht
      exact isWhole_of_instant? h hu
    · split at ht
      · next later hlater => exact ih (h.addSeconds? hlater) ht
      · cases ht

theorem isWhole_of_midnight {d : Date} (ht : z.midnight d = .ok t) : t.IsWhole := by
  unfold midnight resolve at ht
  split at ht
  · next u hu =>
    cases ht
    exact isWhole_of_search (Moment.isWhole_midnight d) hu
  · cases ht
  · cases ht

end Zone

namespace DateContext

variable {c : DateContext} {d : Date} {t : Instant} {w : Window}

theorem isWhole_of_midnight (h : c.midnight d = .ok t) : t.IsWhole := by
  unfold midnight at h
  split at h
  · next u hu =>
    cases h
    exact Zone.isWhole_of_midnight hu
  · cases h

theorem isWhole_of_moved? (hnow : c.now.IsWhole) {unit : TimeUnit} {count : Int}
    (h : c.moved? unit count = some t) : t.IsWhole := by
  cases unit with
  | months => exact hnow.addMonths? h
  | years => exact hnow.addMonths? h
  | _ => exact hnow.addSeconds? h

/-- The window of a date operator is bounded by whole milliseconds. -/
theorem isWhole_of_window (hnow : c.now.IsWhole) {o : DateOperator} {v : Json}
    (h : c.window o v = .ok w) : w.IsWhole := by
  cases o with
  | rolling direction unit =>
    exact boundedBy_of_rolling hnow (fun _ _ _ => isWhole_of_moved? hnow) h
  | _ => exact boundedBy_of_window (fun _ _ => isWhole_of_midnight) (by simp) h

end DateContext
end RecordFilter
