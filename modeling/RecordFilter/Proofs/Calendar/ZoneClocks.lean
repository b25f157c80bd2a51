import RecordFilter.Calendar.Zone
/-!
# The clocks of a zone

What the clocks of a zone show second by second. Where the changes of a zone are in order, and each
span between two of them starts at a later local time than the one before, the first second at which
a local time is shown is found, and clocks are set back below what they show only at a change.

## Main definitions

* `Zone.clock` — what the clocks show at a second.
* `Zone.IsOrdered` — zones whose spans are in order.

## Main statements

* `Zone.firstSecond?_spec` — the first second of a local time.
* `Zone.clockFrom_succ_or_le` — a second continues the one before it, or nothing after it is shown
  earlier.
-/
namespace RecordFilter.Zone

/-- The clocks at a second, given the offset before the changes that follow. -/
def clockFrom (offset : Int) (changes : List Change) (second : Int) : Int :=
  second + offsetFrom offset changes second

def clock (z : Zone) (second : Int) : Int := clockFrom z.initialOffset z.changes second

theorem localTime_eq (z : Zone) (t : Instant) : z.localTime t = ⟨z.clock t.second, t.nano⟩ := rfl

/-- Changes after a first one come later and start later on the clock. -/
def ascends : Change → List Change → Bool
  | _, [] => true
  | first, change :: rest =>
    first.second < change.second &&
      first.second + first.offset ≤ change.second + change.offset && ascends change rest

/-- The first second of the calendar. -/
def firstSecond : Int := Date.firstDay * Moment.secondsPerDay

/-- The spans of the zone are in order, from the start of the calendar on. -/
def IsOrdered (z : Zone) : Prop := ascends ⟨firstSecond, z.initialOffset⟩ z.changes = true

instance (z : Zone) : Decidable z.IsOrdered := inferInstanceAs (Decidable (_ = true))

theorem ascends_cons {first change : Change} {rest : List Change} :
    ascends first (change :: rest) = true ↔
      first.second < change.second ∧
        first.second + first.offset ≤ change.second + change.offset ∧
        ascends change rest = true := by
  simp [ascends, and_assoc]

variable {first change : Change} {rest changes : List Change} {offset second s L : Int}

theorem clockFrom_cons_of_lt (h : second < change.second) :
    clockFrom offset (change :: rest) second = second + offset := by
  simp [clockFrom, offsetFrom, h]

theorem clockFrom_cons_of_le (h : change.second ≤ second) :
    clockFrom offset (change :: rest) second = clockFrom change.offset rest second := by
  simp [clockFrom, offsetFrom, Int.not_lt.2 h]

/-! ## Spans in order -/

/-- After the start of a span nothing is shown that is earlier than at its start. -/
theorem clockFrom_start_le (h : ascends first changes = true) (hs : first.second ≤ second) :
    first.second + first.offset ≤ clockFrom first.offset changes second := by
  induction changes generalizing first with
  | nil => simp only [clockFrom, offsetFrom]; omega
  | cons change rest ih =>
    obtain ⟨_, hclock, hrest⟩ := ascends_cons.1 h
    by_cases hlt : second < change.second
    · rw [clockFrom_cons_of_lt hlt]
      omega
    · rw [clockFrom_cons_of_le (by omega)]
      have := ih hrest (by omega)
      omega

theorem clockFrom_start (h : ascends first changes = true) :
    clockFrom first.offset changes first.second = first.second + first.offset := by
  cases changes with
  | nil => rfl
  | cons change rest => exact clockFrom_cons_of_lt (ascends_cons.1 h).1

/-- Within a span clocks go on second by second, and after its start they do not fall below it. -/
theorem clockFrom_succ_or_le (h : ascends first changes = true) (hs : first.second < second) :
    clockFrom first.offset changes second = clockFrom first.offset changes (second - 1) + 1 ∨
      ∀ s, second ≤ s →
        clockFrom first.offset changes second ≤ clockFrom first.offset changes s := by
  induction changes generalizing first with
  | nil =>
    left
    simp only [clockFrom, offsetFrom]
    omega
  | cons change rest ih =>
    obtain ⟨_, hclock, hrest⟩ := ascends_cons.1 h
    rcases Int.lt_trichotomy second change.second with hlt | rfl | hgt
    · left
      rw [clockFrom_cons_of_lt hlt, clockFrom_cons_of_lt (by omega)]
      omega
    · right
      intro s hle
      rw [clockFrom_cons_of_le hle, clockFrom_cons_of_le (by omega), clockFrom_start hrest]
      exact clockFrom_start_le hrest hle
    · rw [clockFrom_cons_of_le (by omega), clockFrom_cons_of_le (by omega)]
      refine (ih hrest hgt).imp_right fun hle s hs => ?_
      rw [clockFrom_cons_of_le (by omega)]
      exact hle s hs

/-! ## The first second of a local time -/

/-- The clocks show a local second, in the span that starts at `start` or after it. -/
def Shows (start : Option Int) (offset : Int) (changes : List Change) (L second : Int) : Prop :=
  start.all (· ≤ second) = true ∧ clockFrom offset changes second = L

theorem Shows.of_cons {start : Option Int} (h : Shows start offset (change :: rest) L second) :
    (start.all (· ≤ L - offset) = true ∧ L - offset < change.second ∧ second = L - offset) ∨
      Shows (some change.second) change.offset rest L second := by
  obtain ⟨hstart, hclock⟩ := h
  by_cases hlt : second < change.second
  · rw [clockFrom_cons_of_lt hlt] at hclock
    have hsecond : second = L - offset := by omega
    exact Or.inl ⟨hsecond ▸ hstart, hsecond ▸ hlt, hsecond⟩
  · rw [clockFrom_cons_of_le (by omega)] at hclock
    exact Or.inr ⟨by simp; omega, hclock⟩

theorem Shows.cons {start : Option Int} (hstart : start.all (· ≤ change.second) = true)
    (h : Shows (some change.second) change.offset rest L second) :
    Shows start offset (change :: rest) L second := by
  obtain ⟨hle, hclock⟩ := h
  have hle : change.second ≤ second := by simpa using hle
  refine ⟨?_, by rw [clockFrom_cons_of_le hle, hclock]⟩
  cases start with
  | none => rfl
  | some a =>
    simp only [Option.all_some, decide_eq_true_eq] at hstart ⊢
    omega

/-- What is found is the first second at which the clocks show a local second. -/
theorem firstSecond?_spec {start : Option Int} (h : ascends first changes = true)
    (hstart : start = none ∨ start = some first.second) :
    (∀ s, firstSecond? start first.offset changes L = some s →
        Shows start first.offset changes L s ∧
          ∀ s', Shows start first.offset changes L s' → s ≤ s') ∧
      (firstSecond? start first.offset changes L = none →
        ∀ s', ¬ Shows start first.offset changes L s') := by
  induction changes generalizing first start with
  | nil =>
    have hshows (s' : Int) (h' : Shows start first.offset [] L s') :
        s' = L - first.offset ∧ start.all (· ≤ L - first.offset) = true := by
      obtain ⟨hall, hclock⟩ := h'
      have hs : s' = L - first.offset := by
        simp only [clockFrom, offsetFrom] at hclock
        omega
      exact ⟨hs, hs ▸ hall⟩
    simp only [firstSecond?]
    split
    · next hall =>
      refine ⟨?_, by simp⟩
      rintro s ⟨⟩
      refine ⟨⟨hall, by rw [clockFrom, offsetFrom, Int.sub_add_cancel]⟩, fun s' h' => ?_⟩
      exact Int.le_of_eq (hshows s' h').1.symm
    · next hall => exact ⟨by simp, fun _ s' h' => hall (hshows s' h').2⟩
  | cons change rest ih =>
    obtain ⟨hlt, -, hrest⟩ := ascends_cons.1 h
    have hnext : start.all (· ≤ change.second) = true := by
      rcases hstart with rfl | rfl
      · rfl
      · simp only [Option.all_some, decide_eq_true_eq]
        omega
    obtain ⟨ihsome, ihnone⟩ := ih hrest (Or.inr rfl)
    simp only [firstSecond?, Bool.and_eq_true, decide_eq_true_eq]
    split
    · next hin =>
      refine ⟨?_, by simp⟩
      rintro s ⟨⟩
      refine ⟨⟨hin.1, by rw [clockFrom_cons_of_lt hin.2]; omega⟩, fun s' h' => ?_⟩
      rcases h'.of_cons with ⟨-, -, hs⟩ | ⟨hle, -⟩
      · omega
      · have : change.second ≤ s' := by simpa using hle
        omega
    · next hout =>
      constructor
      · intro s hs
        obtain ⟨hshows, hleast⟩ := ihsome s hs
        refine ⟨hshows.cons hnext, fun s' h' => ?_⟩
        rcases h'.of_cons with ⟨hall, hbefore, -⟩ | h'
        · exact absurd ⟨hall, hbefore⟩ hout
        · exact hleast s' h'
      · intro hnone s' h'
        rcases h'.of_cons with ⟨hall, hbefore, -⟩ | h'
        · exact hout ⟨hall, hbefore⟩
        · exact ihnone hnone s' h'

end RecordFilter.Zone
