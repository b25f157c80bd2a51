import RecordFilter.Calendar.Reading
import RecordFilter.Proofs.Calendar.CivilDates
import RecordFilter.Proofs.Text.DecimalDigits
/-!
# Written moments read back

The text of an instant with three digits of the fraction is read as the instant, cut off to the
millisecond. The text has its parts at fixed places, so reading goes through it part by part.

## Main statements

* `Moment.ofText?_millisText` — what is read from the text of an instant.
-/
namespace RecordFilter

namespace TimeText

@[simp] theorem expect_cons (c : Char) (rest : List Char) : expect c (c :: rest) = some rest := by
  simp [expect]

theorem fixed?_paddedDigits {width n : Nat} (h : n < tenPow width) (hw : 0 < width)
    (rest : List Char) : fixed? width (Text.paddedDigits width n ++ rest) = some (n, rest) := by
  have hl := Text.length_paddedDigits h hw
  have htake : (Text.paddedDigits width n ++ rest).take width = Text.paddedDigits width n := by
    rw [List.take_append_of_le_length (by omega), List.take_of_length_le (by omega)]
  have hdrop : (Text.paddedDigits width n ++ rest).drop width = rest := by
    rw [List.drop_append_of_le_length (by omega), List.drop_of_length_le (by omega),
      List.nil_append]
  simp only [fixed?, htake, hdrop, hl, Text.all_isDigit_paddedDigits, Text.ofDigits_paddedDigits]
  simp

theorem spanDigits_append_cons {ds : List Char} (hd : ds.all Char.isDigit = true) {c : Char}
    (hc : c.isDigit = false) (rest : List Char) :
    Text.spanDigits (ds ++ c :: rest) = (ds, c :: rest) := by
  have hd' : ∀ x ∈ ds, x.isDigit = true := List.all_eq_true.1 hd
  simp [Text.spanDigits, List.takeWhile_append_of_pos hd', List.dropWhile_append_of_pos hd', hc]

theorem fraction?_paddedDigits {m : Nat} (h : m < 1000) (rest : List Char) :
    fraction? ('.' :: (Text.paddedDigits 3 m ++ 'Z' :: rest)) =
      some (m * 1000000, 'Z' :: rest) := by
  have hl : (Text.paddedDigits 3 m).length = 3 := Text.length_paddedDigits h (by decide)
  have hspan := spanDigits_append_cons (Text.all_isDigit_paddedDigits 3 m)
    (c := 'Z') (by decide) rest
  have hne : Text.paddedDigits 3 m ≠ [] := by
    intro h0
    simp [h0] at hl
  have hnano : nanoOfDigits (Text.paddedDigits 3 m) = m * 1000000 := by
    rw [nanoOfDigits, List.take_of_length_le (by omega), Text.ofDigits_paddedDigits, hl]
    rfl
  simp only [fraction?, hspan, hnano]

end TimeText

namespace Moment

/-- The instant with the digits of the fraction cut off behind the third. -/
def toMillis (t : Moment) : Moment := ⟨t.second, t.nano / 1000000 * 1000000⟩

/-- A leap second is the last one of a minute, and takes one second more. -/
structure IsProper (t : Moment) : Prop where
  nano : t.nano < 2000000000
  leap : t.isLeapSecond = true → t.second % 60 = 59

variable {t : Moment}

theorem digits_date {d : Date} (h0 : 0 ≤ d.civil.year) (h1 : d.civil.year ≤ 9999) :
    d.digits = Text.paddedDigits 4 d.civil.year.natAbs ++
      '-' :: Text.paddedDigits 2 d.civil.month ++ '-' :: Text.paddedDigits 2 d.civil.day := by
  simp [Date.digits, Date.yearDigits, Int.not_lt.2 h0, Int.not_lt.2 h1]

theorem isLeapSecond_iff : t.isLeapSecond = true ↔ 1000000000 ≤ t.nano := decide_eq_true_iff

theorem shownNano_of_leap (h : t.isLeapSecond = true) : t.shownNano = t.nano - 1000000000 := by
  rw [shownNano, if_pos h]
  rfl

theorem shownNano_of_not_leap (h : ¬ t.isLeapSecond = true) : t.shownNano = t.nano := by
  rw [shownNano, if_neg h]

theorem IsProper.shownNano_div_lt (h : t.IsProper) : t.shownNano / 1000000 < 1000 := by
  have := h.nano
  by_cases hl : t.isLeapSecond = true
  · rw [shownNano_of_leap hl]
    omega
  · rw [shownNano_of_not_leap hl]
    have := mt isLeapSecond_iff.2 hl
    omega

/-- The clock that the text of a moment shows. -/
def clock (t : Moment) : TimeText.Clock where
  hour := t.secondOfDay / 3600
  minute := t.secondOfDay / 60 % 60
  second := t.secondOfDay % 60 + if t.isLeapSecond then 1 else 0
  nano := t.shownNano / 1000000 * 1000000

theorem secondOfDay_eq (t : Moment) : t.secondOfDay = (t.second % 86400).toNat := rfl

theorem secondOfDay_lt (t : Moment) : t.secondOfDay < 86400 := by
  rw [secondOfDay_eq]
  omega

theorem isValid_clock (t : Moment) : t.clock.isValid = true := by
  have := t.secondOfDay_lt
  simp only [TimeText.Clock.isValid, Bool.and_eq_true, decide_eq_true_eq]
  simp only [clock]
  split <;> omega

/-- The day and the clock of a moment lead back to it. -/
theorem IsProper.localTime_clock (h : t.IsProper) :
    TimeText.localTime t.date t.clock = t.toMillis := by
  have hday : t.date.day = t.second / 86400 := rfl
  have hsecond := t.secondOfDay_eq
  simp only [TimeText.localTime, clock, hday, toMillis, secondsPerDay]
  by_cases hl : t.isLeapSecond = true
  · have h59 := h.leap hl
    have hnano := isLeapSecond_iff.1 hl
    rw [shownNano_of_leap hl, if_pos hl, if_pos (by omega), Moment.mk.injEq, nanosPerSecond]
    constructor <;> omega
  · rw [shownNano_of_not_leap hl, if_neg hl, if_neg (by omega)]
    congr 1
    omega

/-- The digits of a date and a clock, as `strictTime?` reads them. -/
theorem strictTime?_digits {year month day : Nat} {c : TimeText.Clock} {millis : Nat}
    (hy : year < 10000) (hm : month < 100) (hd : day < 100) (hc : c.isValid = true)
    (hn : millis < 1000) (hnano : c.nano = millis * 1000000) (rest : List Char) :
    TimeText.strictTime? (Text.paddedDigits 4 year ++ '-' :: (Text.paddedDigits 2 month ++ '-' ::
        (Text.paddedDigits 2 day ++ 'T' :: (Text.paddedDigits 2 c.hour ++ ':' ::
          (Text.paddedDigits 2 c.minute ++ ':' :: (Text.paddedDigits 2 c.second ++ '.' ::
            (Text.paddedDigits 3 millis ++ 'Z' :: rest))))))) =
      (Date.ofCivil? year month day).map fun d => (TimeText.localTime d c, 'Z' :: rest) := by
  have hclock := hc
  simp only [TimeText.Clock.isValid, Bool.and_eq_true, decide_eq_true_eq] at hclock
  obtain ⟨⟨hhour, hminute⟩, hsecond⟩ := hclock
  have hfour : year < tenPow 4 := hy
  have htwo {n : Nat} (hn : n < 100) : n < tenPow 2 := hn
  have hhour' : c.hour < 100 := by omega
  have hminute' : c.minute < 100 := by omega
  have hsecond' : c.second < 100 := by omega
  have hsep : TimeText.isSeparator 'T' = true := by decide
  have hc' : (⟨c.hour, c.minute, c.second, millis * 1000000⟩ : TimeText.Clock) = c := by
    rw [← hnano]
  -- the steps are nested: each one is taken before those behind it are looked at
  have hstep {α β : Type} {x : Option α} {a : α} (h : x = some a) (f : α → Option β) :
      x >>= f = f a := by
    rw [h]
    rfl
  rw [TimeText.strictTime?, hstep (TimeText.fixed?_paddedDigits hfour (by decide) _)]
  dsimp only
  rw [hstep (TimeText.expect_cons _ _),
    hstep (TimeText.fixed?_paddedDigits (htwo hm) (by decide) _)]
  dsimp only
  rw [hstep (TimeText.expect_cons _ _),
    hstep (TimeText.fixed?_paddedDigits (htwo hd) (by decide) _)]
  dsimp only
  rw [if_pos hsep, hstep rfl,
    hstep (TimeText.fixed?_paddedDigits (htwo hhour') (by decide) _)]
  dsimp only
  rw [hstep (TimeText.expect_cons _ _),
    hstep (TimeText.fixed?_paddedDigits (htwo hminute') (by decide) _)]
  dsimp only
  rw [hstep (TimeText.expect_cons _ _),
    hstep (TimeText.fixed?_paddedDigits (htwo hsecond') (by decide) _)]
  dsimp only
  rw [hstep (TimeText.fraction?_paddedDigits hn _)]
  rw [hc', TimeText.localTime?, if_pos hc]
  cases Date.ofCivil? year month day <;> rfl

/-- The text of an instant is read as the instant, cut off to the millisecond. -/
theorem instant?_millisDigits (h : t.IsProper) (h0 : 0 ≤ t.date.civil.year)
    (h1 : t.date.civil.year ≤ 9999) : TimeText.instant? t.millisDigits = some t.toMillis := by
  have hvalid := Date.isValid_civil t.date
  simp only [Civil.isValid, Bool.and_eq_true, decide_eq_true_eq] at hvalid
  obtain ⟨⟨⟨_, hmonth⟩, _⟩, hday⟩ := hvalid
  have hdays : Civil.daysInMonth t.date.civil.year t.date.civil.month ≤ 31 := by
    unfold Civil.daysInMonth
    repeat' split
    all_goals omega
  have hyear : (t.date.civil.year.natAbs : Int) = t.date.civil.year := by omega
  have hdate := Date.ofCivil?_civil t.date (by simp only [Date.firstYear]; omega)
    (by simp only [Date.lastYear]; omega)
  have hy : t.date.civil.year.natAbs < 10000 := by omega
  have hm : t.date.civil.month < 100 := by omega
  have hd : t.date.civil.day < 100 := by omega
  have hread := strictTime?_digits hy hm hd t.isValid_clock h.shownNano_div_lt rfl []
  rw [hyear, hdate, Option.map_some, h.localTime_clock] at hread
  simp only [clock] at hread
  simp only [TimeText.instant?, millisDigits, digits_date h0 h1, clockDigits, List.append_assoc,
    List.cons_append, hread, Option.bind_eq_bind, Option.bind_some,
    TimeText.offset?, Int.sub_zero]
  rfl

theorem ofText?_millisText (h : t.IsProper) (h0 : 0 ≤ t.date.civil.year)
    (h1 : t.date.civil.year ≤ 9999) : ofText? t.millisText = some t.toMillis := by
  rw [ofText?, millisText, String.toList_ofList, instant?_millisDigits h h0 h1]

end Moment
end RecordFilter
