import RecordFilter.Calendar.Reading
import RecordFilter.Proofs.Calendar.CalendarLimits
import RecordFilter.Proofs.Text.DecimalDigits
/-!
# Dates that texts name

A text that names a date or a local time names a date of the calendar. An instant is written with a
year of four digits and an offset of less than a day, so in a zone near UTC its date lies in the
calendar as well.

## Main statements

* `TimeText.inCalendar_of_plainDate?`, `TimeText.inCalendar_of_plainTime?` — local forms.
* `TimeText.second_of_instant?` — instants with an offset.
* `Zone.IsNear.inCalendar_of_readDay` — the day that a text names.
-/
namespace RecordFilter

namespace TimeText

variable {cs rest : List Char} {time : LocalTime} {d : Date} {t : Instant} {offset : Int}

/-- A local time that is read lies within the date that it names. -/
theorem localTime?_eq_some {date : Option Date} {c : Clock} (h : localTime? date c = some time) :
    ∃ d, date = some d ∧ d.day * 86400 ≤ time.second ∧ time.second < (d.day + 1) * 86400 := by
  unfold localTime? at h
  split at h
  · next hvalid =>
    obtain ⟨d, hd, rfl⟩ := Option.map_eq_some_iff.1 h
    simp only [Clock.isValid, Bool.and_eq_true, decide_eq_true_eq] at hvalid
    refine ⟨d, hd, ?_⟩
    unfold localTime Moment.secondsPerDay
    dsimp only
    split <;> dsimp only <;> omega
  · cases h

/-- A number of so many digits is below the power of ten. -/
theorem fixed?_lt {width n : Nat} (h : fixed? width cs = some (n, rest)) : n < tenPow width := by
  simp only [fixed?] at h
  split at h
  · next hdigits =>
    simp only [Bool.and_eq_true, decide_eq_true_eq] at hdigits
    obtain ⟨hlength, hall⟩ := hdigits
    cases h
    have hlt := Text.ofDigits_lt (List.all_eq_true.1 hall)
    rwa [hlength] at hlt
  · cases h

theorem strictTime?_eq_some (h : strictTime? cs = some (time, rest)) :
    ∃ (year month day : Nat) (c : Clock), year < tenPow 4 ∧
      localTime? (Date.ofCivil? year month day) c = some time := by
  unfold strictTime? at h
  obtain ⟨⟨year, _⟩, hyear, h⟩ := Option.bind_eq_some_iff.1 h
  obtain ⟨_, -, h⟩ := Option.bind_eq_some_iff.1 h
  obtain ⟨⟨month, _⟩, -, h⟩ := Option.bind_eq_some_iff.1 h
  obtain ⟨_, -, h⟩ := Option.bind_eq_some_iff.1 h
  obtain ⟨⟨day, _⟩, -, h⟩ := Option.bind_eq_some_iff.1 h
  dsimp only at h
  split at h
  · split at h
    · obtain ⟨_, -, h⟩ := Option.bind_eq_some_iff.1 h
      obtain ⟨⟨hour, _⟩, -, h⟩ := Option.bind_eq_some_iff.1 h
      obtain ⟨_, -, h⟩ := Option.bind_eq_some_iff.1 h
      obtain ⟨⟨minute, _⟩, -, h⟩ := Option.bind_eq_some_iff.1 h
      obtain ⟨_, -, h⟩ := Option.bind_eq_some_iff.1 h
      obtain ⟨⟨second, _⟩, -, h⟩ := Option.bind_eq_some_iff.1 h
      obtain ⟨⟨nano, _⟩, -, h⟩ := Option.bind_eq_some_iff.1 h
      obtain ⟨read, hread, h⟩ := Option.bind_eq_some_iff.1 h
      cases h
      exact ⟨year, month, day, _, fixed?_lt hyear, hread⟩
    · cases h
  · cases h

theorem date?_eq_some {date : Option Date} (h : date? cs = some (date, rest)) :
    ∃ year month day, date = Date.ofCivil? year month day := by
  simp only [date?, Option.bind_eq_bind, Option.bind_eq_some_iff] at h
  obtain ⟨⟨year, _⟩, -, _, -, ⟨month, _⟩, -, _, -, ⟨day, _⟩, -, h⟩ := h
  cases h
  exact ⟨year, month, day, rfl⟩

theorem inCalendar_of_plainDate? (h : plainDate? cs = some d) : d.inCalendar = true := by
  unfold plainDate? at h
  split at h
  · next date hdate =>
    obtain ⟨year, month, day, rfl⟩ := date?_eq_some hdate
    exact Date.inCalendar_of_ofCivil? h
  · cases h

theorem inCalendar_of_plainTime? (h : plainTime? cs = some time) : time.inCalendar = true := by
  simp only [plainTime?, Option.bind_eq_bind, Option.bind_eq_some_iff] at h
  obtain ⟨⟨date, _⟩, hdate, h⟩ := h
  obtain ⟨c, h⟩ : ∃ c, localTime? date c = some time := by
    split at h <;> obtain ⟨c, -, h⟩ := Option.bind_eq_some_iff.1 h <;> exact ⟨c, h⟩
  obtain ⟨year, month, day, rfl⟩ := date?_eq_some hdate
  obtain ⟨d, hd, hle, hlt⟩ := localTime?_eq_some h
  have hin := Date.inCalendar_iff.1 (Date.inCalendar_of_ofCivil? hd)
  simp only [Date.firstDay, Date.lastDay] at hin
  rw [Moment.inCalendar_iff]
  simp only [Zone.firstSecond, Moment.secondsPerDay, Date.firstDay, Date.lastDay]
  omega

theorem offsetAfter?_lt (h : offsetAfter? cs = some offset) : 0 ≤ offset ∧ offset < 86400 := by
  simp only [offsetAfter?, Option.bind_eq_bind, Option.bind_eq_some_iff] at h
  obtain ⟨⟨hour, _⟩, -, _, -, ⟨minute, _⟩, -, h⟩ := h
  dsimp only at h
  split at h
  · next hc =>
    simp only [Bool.and_eq_true, decide_eq_true_eq] at hc
    cases h
    omega
  · cases h

/-- An offset that is written is shorter than a day. -/
theorem offset?_lt (h : offset? cs = some offset) : -86400 < offset ∧ offset < 86400 := by
  unfold offset? at h
  split at h
  · cases h
    omega
  · cases h
    omega
  · have := offsetAfter?_lt h
    omega
  · obtain ⟨o, ho, rfl⟩ := Option.map_eq_some_iff.1 h
    have := offsetAfter?_lt ho
    omega
  · obtain ⟨o, ho, rfl⟩ := Option.map_eq_some_iff.1 h
    have := offsetAfter?_lt ho
    omega
  · cases h

/-- An instant that is written with its offset lies within a day of the years 0 to 9999. -/
theorem second_of_instant? (h : instant? cs = some t) :
    (Date.dayNumber ⟨0, 1, 1⟩ - 1) * 86400 < t.second ∧
      t.second < (Date.dayNumber ⟨9999, 12, 31⟩ + 2) * 86400 := by
  simp only [instant?, Option.bind_eq_bind, Option.bind_eq_some_iff] at h
  obtain ⟨⟨time, _⟩, htime, offset, hoffset, h⟩ := h
  obtain ⟨year, month, day, c, hyear, hlocal⟩ := strictTime?_eq_some htime
  have hlimit : tenPow 4 = 10000 := rfl
  obtain ⟨d, hd, hle, hlt⟩ := localTime?_eq_some hlocal
  obtain ⟨-, -, hvalid, rfl⟩ := Date.ofCivil?_eq_some hd
  have hfirst := Date.dayNumber_ge hvalid (Int.natCast_nonneg year)
  have hlast : Date.dayNumber ⟨year, month, day⟩ ≤ Date.dayNumber ⟨9999, 12, 31⟩ :=
    Date.dayNumber_le hvalid (by dsimp only; omega)
  have := offset?_lt hoffset
  cases h
  dsimp only at hle hlt ⊢
  omega

end TimeText

namespace Zone

variable {z : Zone} {s : String} {d : Date}

/-- The day that a text names lies in the calendar. -/
theorem IsNear.inCalendar_of_readDay (hnear : z.IsNear) (h : z.readDay s = some d) :
    d.inCalendar = true := by
  unfold readDay readDayChars at h
  split at h
  · next hdate =>
    cases h
    exact TimeText.inCalendar_of_plainDate? hdate
  · split at h
    · next t ht =>
      cases h
      have hsecond := TimeText.second_of_instant? ht
      have hoffset := hnear t.second
      have hfirst : Date.dayNumber ⟨0, 1, 1⟩ = -719528 := rfl
      have hlast : Date.dayNumber ⟨9999, 12, 31⟩ = 2932896 := rfl
      rw [Date.inCalendar_iff]
      simp only [localDate, localTime, Moment.date, Moment.secondsPerDay, Date.firstDay,
        Date.lastDay]
      omega
    · obtain ⟨time, htime, rfl⟩ := Option.map_eq_some_iff.1 h
      exact TimeText.inCalendar_of_plainTime? htime

end Zone
end RecordFilter
