import RecordFilter.Proofs.Calendar.NamedDates
import RecordFilter.Proofs.Filter.ScalarKinds
/-!
# Lists and dates of tests

A test of membership has members, since the list that it is read from is not empty; and the dates of
a test lie in the calendar.

## Main definitions

* `Test.HasMembers` — tests whose lists of values are not empty.

## Main statements

* `ConditionInput.hasMembers_of_test`, `ConditionInput.inCalendar_of_test` — its lists and dates.
-/
namespace RecordFilter

namespace Attribute

variable {a : Attribute} {dates : DateContext} {v : Json} {d : Date}

/-- Only an attribute of dates stores dates. -/
theorem eq_date_of_scalarKind (h : a.scalarKind = .date) : a = .date .date := by
  cases a with
  | date format => cases format <;> first | rfl | cases h
  | choice options | choices options =>
    cases hd : discriminantOf options <;> simp [scalarKind, hd, Discriminant.scalarKind] at h
  | lookup _ reference | id reference => cases reference <;> cases h
  | _ => cases h

theorem inCalendar_of_coerce (hnear : a.isDateOnly = true → dates.zone.IsNear)
    (h : a.coerce dates v = .ok (.date d)) : d.inCalendar = true := by
  obtain rfl := eq_date_of_scalarKind (kind_of_coerce h).symm
  have hdate : Scalar.ofDate dates .date v = .ok (.date d) := h
  unfold Scalar.ofDate at hdate
  split at hdate
  · simp only at hdate
    split at hdate
    · next hday =>
      cases hdate
      exact (hnear rfl).inCalendar_of_readDay hday
    · cases hdate
  · cases hdate

end Attribute

/-- Where a test has a list of values, the list is not empty. -/
def Test.HasMembers : Test → Prop
  | .member ss _ => ss ≠ []
  | .containsAny ss _ => ss ≠ []
  | .flags f _ => f ≠ ⟨false, false⟩
  | _ => True

/-- Truth values in a list are in the set that the list gives. -/
theorem Flags.ofScalars_ne {ss : List Scalar} (hne : ss ≠ []) (h : ∀ s ∈ ss, s.kind = .bool) :
    ofScalars ss ≠ ⟨false, false⟩ := by
  obtain ⟨s, hs⟩ := List.exists_mem_of_ne_nil ss hne
  obtain ⟨b, rfl⟩ : ∃ b, s = .bool b := by
    have hkind := h s hs
    cases s <;> first | exact ⟨_, rfl⟩ | cases hkind
  intro hnone
  simp only [ofScalars, Flags.mk.injEq, List.elem_eq_mem, decide_eq_false_iff_not] at hnone
  cases b with
  | false => exact hnone.2 hs
  | true => exact hnone.1 hs

namespace ConditionInput

variable {i : ConditionInput} {t : Test}

/-- Only where dates are stored, a test has dates. -/
theorem inCalendar_of_test (hnear : i.type.isDateOnly = true → i.dates.zone.IsNear)
    (h : i.test = .ok (some t)) {d : Date} (hd : .date d ∈ t.scalars) : d.inCalendar = true := by
  rcases yields_of_test h _ hd with ⟨w, -, hw⟩ | ⟨-, u, hu⟩
  · exact Attribute.inCalendar_of_coerce hnear hw
  · cases hu

/-- Lists of values are taken from arrays that are not empty. -/
theorem hasMembers_of_test (h : i.test = .ok (some t)) : t.HasMembers := by
  cases asks_of_test h with
  | flags _ htype hss =>
    refine Flags.ofScalars_ne (Attribute.ne_nil_of_coerceList hss) fun s hs => ?_
    rw [Attribute.kind_of_yields (Attribute.yields_of_coerceList hss s hs), htype]
    rfl
  | containsAny _ _ hss | member _ _ _ hss => exact Attribute.ne_nil_of_coerceList hss
  | _ => trivial

end ConditionInput
end RecordFilter
