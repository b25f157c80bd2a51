import RecordFilter.Plan.Target
import RecordFilter.Proofs.Filter.CutWindows
import RecordFilter.Proofs.Match.TestedDocuments
/-!
# Windows as they are written for documents

A match writes the bounds of a window with three digits of the fraction. Read back, they are cut off
to the millisecond, so the match selects what the window contains when it is cut off. That is not
what it contains itself if it is measured from a present between two milliseconds.

## Main definitions

* `MatchOperator.HoldsOf` — the instants that meet an operator as it is written.
* `Window.Selects`, `Window.IsExact` — the instants that a written window selects, and windows that
  select what they contain.

## Main statements

* `Window.selects_iff` — a written window selects what it contains when it is cut off.
* `ConditionInput.written_window_holds` — when the match of a date operator is exact.
* `ConditionInput.nextHour_misses_its_bounds` — a match that is not.
-/
namespace RecordFilter

namespace MatchOperator

/-- Whether a stored instant meets an operator whose operand is read back as an instant. -/
def HoldsOf (t : Instant) : MatchOperator → Prop
  | compare c operand =>
    ∃ b, (operandJson operand).toScalar? = some (.timestamp b) ∧ c.accepts (t.order b) = true
  | _ => False

variable {t b : Instant} {c : Comparator} {same : Char → Char → Bool}

theorem toScalar?_operandJson_timestamp (b : Instant) :
    (operandJson (some (.timestamp b))).toScalar? = (Moment.ofText? b.millisText).map .timestamp :=
  rfl

/-- A bound that can be written is read back cut off to the millisecond. -/
theorem holdsOf_compare_timestamp_iff (hb : b.IsProper) (h0 : 0 ≤ b.date.civil.year)
    (h1 : b.date.civil.year ≤ 9999) :
    (compare c (some (.timestamp b))).HoldsOf t ↔ c.accepts (t.order b.toMillis) = true := by
  simp only [HoldsOf, toScalar?_operandJson_timestamp, Moment.ofText?_millisText hb h0 h1,
    Option.map_some, Option.some.injEq, Scalar.timestamp.injEq, exists_eq_left']

/-- A document that shows an instant meets an operator as the instant does. -/
theorem accepts_compare_timestamp_iff {value : Json} (hv : value.toScalar? = some (.timestamp t))
    (heq : c ≠ .eq) (hne : c ≠ .ne) :
    (compare c (some (.timestamp b))).accepts same (some value) = true ↔
      (compare c (some (.timestamp b))).HoldsOf t := by
  have hone : Json.candidates (some value) = [value] := by
    cases value with
    | array items => cases hv
    | _ => rfl
  rw [accepts, Json.fieldCompares_eq_any heq hne, hone, List.any_cons, List.any_nil, Bool.or_false,
    Json.compare?, hv, HoldsOf, toScalar?_operandJson_timestamp]
  cases Moment.ofText? b.millisText with
  | none => simp
  | some read => simp [Scalar.compare?]

end MatchOperator

variable {w : Window} {t : Instant} {same : Char → Char → Bool}

/-- The operators of a window compare with its bounds. -/
theorem Match.forall_windowOperators_iff {P : MatchOperator → Prop} :
    (∀ op ∈ windowOperators w, P op) ↔
      (∀ b ∈ w.start?, P (.compare .gte (some (.timestamp b)))) ∧
        ∀ b ∈ w.finish?, P (.compare .lt (some (.timestamp b))) := by
  cases w <;> simp [windowOperators, Window.start?, Window.finish?]

namespace Window

/-- Whether a stored instant meets the operators that write the window. -/
def Selects (w : Window) (t : Instant) : Prop := ∀ op ∈ Match.windowOperators w, op.HoldsOf t

/-- The window selects the whole milliseconds that it contains. -/
def IsExact (w : Window) : Prop := ∀ t : Instant, t.IsWhole → (w.Selects t ↔ w.Contains t)

/-- A window selects the instants that it contains when it is cut off. -/
theorem selects_iff (hproper : w.BoundedBy Moment.IsProper)
    (hyears : w.BoundedBy fun b => 0 ≤ b.date.civil.year ∧ b.date.civil.year ≤ 9999) :
    w.Selects t ↔ w.toMillis.Contains t := by
  have hbound {b : Instant} (hb : b ∈ w.start?.toList ++ w.finish?.toList) (c : Comparator) :=
    MatchOperator.holdsOf_compare_timestamp_iff (t := t) (c := c) (hproper b hb) (hyears b hb).1
      (hyears b hb).2
  rw [Selects, Match.forall_windowOperators_iff, contains_iff]
  simp only [start?_toMillis, finish?_toMillis, Option.mem_map, forall_exists_index,
    and_imp, forall_apply_eq_imp_iff₂]
  refine and_congr (forall₂_congr fun b hb => ?_) (forall₂_congr fun b hb => ?_)
  · rw [hbound (by simp_all) .gte, Moment.accepts_gte_order_iff]
  · rw [hbound (by simp_all) .lt, Moment.accepts_lt_order_iff]

/-- A document that shows an instant is selected if the window selects the instant. -/
theorem selects_iff_of_found {path : String} {document value : Json}
    (hfound : document.at? path = some value) (hv : value.toScalar? = some (.timestamp t)) :
    (Match.field path (Match.windowOperators w)).selects same document = true ↔ w.Selects t := by
  rw [Match.selects, hfound, List.all_eq_true, Selects, Match.forall_windowOperators_iff,
    Match.forall_windowOperators_iff]
  have hbound {c : Comparator} (heq : c ≠ .eq) (hne : c ≠ .ne) (b : Instant) :
      MatchOperator.accepts same (some value) (.compare c (some (.timestamp b))) = true ↔
        (MatchOperator.compare c (some (.timestamp b))).HoldsOf t :=
    MatchOperator.accepts_compare_timestamp_iff hv heq hne
  exact and_congr (forall₂_congr fun b _ => hbound (by decide) (by decide) b)
    (forall₂_congr fun b _ => hbound (by decide) (by decide) b)

end Window

namespace ConditionInput

variable {i : ConditionInput} {o : DateOperator}

theorem window_of_date (ho : i.operator = .date o) : i.window = i.dates.window o i.value := by
  rw [window, ho]
  rfl

/-- The match of a date operator has the operators of its window. -/
theorem ofTest_of_window (ho : i.operator = .date o) (hw : i.window = .ok w) (path : String) :
    ∃ test, i.test = .ok (some test) ∧
      Match.ofTest path test = .field path (Match.windowOperators w) := by
  rw [window_of_date ho] at hw
  obtain ⟨test, hdate, htest⟩ : ∃ test, i.dateTest o = .ok test ∧
      Match.ofTest path test = .field path (Match.windowOperators w) := by
    unfold dateTest
    split <;> rw [hw] <;> exact ⟨_, rfl, rfl⟩
  refine ⟨test, ?_, htest⟩
  rw [ConditionInput.test, ho]
  simp [hdate]

/-- The match of a date operator, with its bounds read back, selects the whole milliseconds of the
window cut off. They are those of the window itself, except where a bound was cut off to. There is
no exception exactly if the operator follows the calendar, the present is a whole millisecond, or
nothing is left of the window. -/
theorem written_window_holds (ho : i.operator = .date o) (hw : i.window = .ok w)
    (hnow : i.dates.now.IsProper)
    (hyears : w.BoundedBy fun b => 0 ≤ b.date.civil.year ∧ b.date.civil.year ≤ 9999) :
    (∃ test, i.test = .ok (some test) ∧ ∀ dateOnly,
      Target.document.ofTest dateOnly i.field test =
        .ok (.field i.field.path (Match.windowOperators w))) ∧
    (∀ t : Instant, t.IsWhole → (w.Selects t ↔ w.toMillis.Contains t) ∧
      ((w.BoundedBy fun b => t ≠ b.toMillis) → (w.Selects t ↔ w.Contains t))) ∧
    ((∀ direction unit, o ≠ .rolling direction unit) ∨ i.dates.now.nano % 1000000 = 0 →
      w.IsExact) ∧
    (i.dates.now.isLeapSecond = false →
      (w.IsExact ↔ (∀ direction unit, o ≠ .rolling direction unit) ∨
        i.dates.now.nano % 1000000 = 0 ∨ ∀ t, ¬ w.toMillis.Contains t)) ∧
    ∀ same path document value t, document.at? path = some value →
      value.toScalar? = some (.timestamp t) →
        ((Match.field path (Match.windowOperators w)).selects same document = true ↔
          w.Selects t) := by
  have hwindow := (window_of_date ho).symm.trans hw
  have hcut {t : Instant} : w.Selects t ↔ w.toMillis.Contains t :=
    Window.selects_iff (DateContext.isProper_of_window hnow hwindow) hyears
  obtain ⟨test, htest, hmatch⟩ := ofTest_of_window ho hw i.field.path
  refine ⟨⟨test, htest, fun _ => congrArg Except.ok hmatch⟩, fun t ht => ⟨hcut, fun hne => ?_⟩,
    fun hexact t _ => ?_, fun hleap => ?_, fun same path document value t hfound hv => ?_⟩
  · exact hcut.trans (Window.contains_toMillis_iff_of_ne ht hne)
  · rw [hcut, DateContext.toMillis_of_window hwindow hexact]
  · simp only [Window.IsExact, hcut]
    exact DateContext.contains_toMillis_of_window_iff hleap hwindow
  · exact Window.selects_iff_of_found hfound hv

/-- The hour from half a millisecond past eight on. -/
def nextHour : ConditionInput where
  field := ⟨none, "starts"⟩
  type := .date .datetime
  operator := .date (.rolling .next .hours)
  value := .int 1
  dates := ⟨⟨1736971200, 500000⟩, .utc, .default⟩

/-- The match of the next hour is right about all instants but eight and nine o'clock. -/
theorem nextHour_holds :
    ∃ w, nextHour.window = .ok w ∧
      (∀ t : Instant, t.IsWhole → t ≠ ⟨1736971200, 0⟩ → t ≠ ⟨1736974800, 0⟩ →
        (w.Selects t ↔ w.Contains t)) ∧
      ¬ w.IsExact := by
  have hyears : (Window.between ⟨1736971200, 500000⟩ ⟨1736974800, 500000⟩).BoundedBy
      fun b => 0 ≤ b.date.civil.year ∧ b.date.civil.year ≤ 9999 :=
    Window.boundedBy_between.2 (by decide +kernel)
  obtain ⟨-, hverdict, -, hexact, -⟩ := written_window_holds (i := nextHour) rfl rfl
    (Moment.isProper_of_nano_lt (by decide)) hyears
  refine ⟨_, rfl, fun t ht hstart hfinish => ?_, fun h => ?_⟩
  · exact (hverdict t ht).2 (Window.boundedBy_between.2 ⟨hstart, hfinish⟩)
  · rcases (hexact rfl).1 h with hcalendar | hmillis | hempty
    · exact hcalendar _ _ rfl
    · exact absurd hmillis (by decide)
    · exact hempty ⟨1736971200, 0⟩ (by decide)

/-- A record of something that starts at an instant. -/
def startAt (t : Instant) : Json := .object [("starts", (Scalar.timestamp t).toJson)]

/-- What starts at eight is selected although the hour has not begun, and what starts at nine is not
although the hour is not over. -/
theorem nextHour_misses_its_bounds :
    ∃ w, nextHour.window = .ok w ∧ nextHour.test = .ok (some (.window w)) ∧
      ¬ w.Contains ⟨1736971200, 0⟩ ∧
      (Match.ofTest "starts" (.window w)).selects (· == ·) (startAt ⟨1736971200, 0⟩) = true ∧
      w.Contains ⟨1736974800, 0⟩ ∧
      (Match.ofTest "starts" (.window w)).selects (· == ·) (startAt ⟨1736974800, 0⟩) = false := by
  refine ⟨.between ⟨1736971200, 500000⟩ ⟨1736974800, 500000⟩, rfl, rfl, ?_, ?_, ?_, ?_⟩
  · decide
  · decide +kernel
  · decide
  · decide +kernel

end ConditionInput
end RecordFilter
