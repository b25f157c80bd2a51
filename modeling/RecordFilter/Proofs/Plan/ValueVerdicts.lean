import RecordFilter.Calendar.ZoneTable
import RecordFilter.Proofs.Filter.TakenValues
import RecordFilter.Proofs.Plan.SingleConditions
import RecordFilter.Proofs.Sql.WindowBounds
/-!
# Verdicts on values

A value is judged alike by equality and by membership, plain or negated, and a list by its members.
Truth values on a field of texts are the exception: by themselves they are refused, and in a list
they are taken as the texts *true* and *false*.

## Main definitions

* `Condition.equals`, `Condition.among` — a condition that asks for a value, or for one of several.
* `Compiler.JudgesAlike` — the verdicts of a compiler on the values of an attribute.

## Main statements

* `Compiler.values_judged_alike` — documents and rows.
-/
namespace RecordFilter

/-! ## Conditions -/

namespace Condition

variable {q : Condition} {dates : DateContext} {a : Attribute} {v : Json} {negated : Bool}

/-- The condition, asking for a value. -/
def equals (q : Condition) (negated : Bool) (v : Json) : Condition :=
  { q with operator := .equality negated, value := v }

/-- The condition, asking for one of the values in a list. -/
def among (q : Condition) (negated : Bool) (v : Json) : Condition :=
  { q with operator := .membership negated, value := v }

theorem resolve_equals (hv : v.isNull = false) :
    (q.equals negated v).operator.resolve (q.equals negated v).value = .equality negated := by
  cases v <;> first | rfl | cases hv

theorem applies_equals (hv : v.isNull = false) : (q.equals negated v).Applies a := by
  have hresolve : (q.equals negated v).operator.resolve (q.equals negated v).value =
      .equality negated := resolve_equals hv
  exact ⟨by rw [hresolve]; rfl, fun key => by rw [hresolve]; nofun⟩

theorem applies_among (hdate : a.isDate = false) : (q.among negated v).Applies a := by
  have hallowed : (Operator.membership negated).applicability a = .allowed := by
    simp [Operator.applicability, Applicability.allowedIf, hdate]
  refine ⟨hallowed, fun key h => ?_⟩
  cases h

theorem dates_input (hdate : a.isDate = false) : (q.input dates a).dates = dates := by
  cases a with
  | date format => cases hdate
  | _ => rfl

theorem exists_test?_iff (happlies : q.Applies a) :
    (∃ t, q.test? dates a = some t) ↔ ∃ t, (q.input dates a).test = .ok (some t) := by
  simp only [test?_eq_some_iff, happlies.allowed, true_and]

/-- A value is asked for if it is read, and is no truth value on a field of texts. -/
theorem exists_test?_equals_iff (hdate : a.isDate = false) (hv : v.isNull = false) :
    (∃ t, (q.equals negated v).test? dates a = some t) ↔
      a.Reads dates v ∧ ¬ (a.kind = .string ∧ v.isBool = true) := by
  have hread := @ConditionInput.exists_test_equality_iff ((q.equals negated v).input dates a)
    negated (resolve_equals hv)
  rw [dates_input hdate] at hread
  exact (exists_test?_iff (applies_equals hv)).trans hread

/-- A list is asked about if all its members are read. -/
theorem exists_test?_among_iff (hdate : a.isDate = false) :
    (∃ t, (q.among negated v).test? dates a = some t) ↔
      ∃ w ws, v = .array (w :: ws) ∧ ∀ x ∈ w :: ws, a.Reads dates x := by
  have hread :=
    @ConditionInput.exists_test_membership_iff ((q.among negated v).input dates a) negated rfl
  rw [dates_input hdate] at hread
  exact (exists_test?_iff (applies_among hdate)).trans hread

end Condition

/-! ## Verdicts -/

namespace Compiler

variable {P : Type} {c : Compiler P} {dates : DateContext} {q : Condition} {a : Attribute}
  {v : Json} {negated : Bool}

/-- Values are judged alike by themselves and in lists, but for truth values on a field of texts; a
list is kept or refused by its members. -/
structure JudgesAlike [ZoneSource] (c : Compiler P) (q : Condition) (a : Attribute) : Prop where
  alike : ∀ v, v.isNull = false → ¬ (a.kind = .string ∧ v.isBool = true) →
    (∀ negated, c.Keeps (q.equals negated v) a ∧ c.Keeps (q.among negated (.array [v])) a) ∨
      ∀ negated, c.Refuses (q.equals negated v) a ∧ c.Refuses (q.among negated (.array [v])) a
  apart : ∀ v, a.kind = .string → v.isBool = true → ∀ negated,
    c.Refuses (q.equals negated v) a ∧ c.Keeps (q.among negated (.array [v])) a
  keeps_list_iff : ∀ negated v, c.Keeps (q.among negated v) a ↔
    ∃ w ws, v = .array (w :: ws) ∧ ∀ x ∈ w :: ws, x.isNull = false ∧
      (c.Keeps (q.equals false x) a ∨ a.kind = .string ∧ x.isBool = true)
  refuses_list_iff : ∀ negated v,
    c.Refuses (q.among negated v) a ↔ ¬ c.Keeps (q.among negated v) a

section Target

variable [ZoneSource] (hdates : c.dates = .ok dates) (hdate : a.isDate = false)
  (hequals : ∀ negated v, c.CanAsk dates (q.equals negated v) a)
  (hamong : ∀ negated v, c.CanAsk dates (q.among negated v) a)

include hdates hdate hequals in
theorem keeps_equals_iff (hv : v.isNull = false) : c.Keeps (q.equals negated v) a ↔
    a.Reads dates v ∧ ¬ (a.kind = .string ∧ v.isBool = true) :=
  (keeps_iff hdates (hequals negated v)).trans (Condition.exists_test?_equals_iff hdate hv)

include hdates hdate hamong in
theorem keeps_among_iff : c.Keeps (q.among negated v) a ↔
    ∃ w ws, v = .array (w :: ws) ∧ ∀ x ∈ w :: ws, a.Reads dates x :=
  (keeps_iff hdates (hamong negated v)).trans (Condition.exists_test?_among_iff hdate)

include hdates hdate hamong in
theorem keeps_among_one_iff : c.Keeps (q.among negated (.array [v])) a ↔ a.Reads dates v := by
  rw [keeps_among_iff hdates hdate hamong]
  constructor
  · rintro ⟨w, ws, hv, hreads⟩
    obtain ⟨rfl, -⟩ := List.cons.inj (Json.array.inj hv)
    exact hreads v List.mem_cons_self
  · intro hread
    exact ⟨v, [], rfl, by simpa using hread⟩

include hdates hdate hequals in
/-- The values that can be members of a list. -/
theorem reads_iff : a.Reads dates v ↔ v.isNull = false ∧
    (c.Keeps (q.equals false v) a ∨ a.kind = .string ∧ v.isBool = true) := by
  constructor
  · intro hread
    have hnull : v.isNull = false := by
      cases v with
      | null => exact absurd hread Attribute.not_reads_null
      | _ => rfl
    by_cases hbool : a.kind = .string ∧ v.isBool = true
    · exact ⟨hnull, Or.inr hbool⟩
    · exact ⟨hnull, Or.inl ((keeps_equals_iff hdates hdate hequals hnull).2 ⟨hread, hbool⟩)⟩
  · rintro ⟨hnull, hkept | ⟨hkind, hbool⟩⟩
    · exact ((keeps_equals_iff hdates hdate hequals hnull).1 hkept).1
    · exact Attribute.reads_bool hkind hbool

include hdates hdate hequals hamong in
theorem judgesAlike : c.JudgesAlike q a := by
  have hrefuses_equals {negated : Bool} {v : Json} (hv : v.isNull = false) :=
    refuses_iff hdates (hequals negated v) (Condition.applies_equals (a := a) hv)
  have hrefuses_among (negated : Bool) (v : Json) :=
    refuses_iff hdates (hamong negated v) (Condition.applies_among hdate)
  refine ⟨fun v hnull hbool => ?_, fun v hkind hbool negated => ?_, fun negated v => ?_,
    hrefuses_among⟩
  · by_cases hread : a.Reads dates v
    · exact Or.inl fun negated =>
        ⟨(keeps_equals_iff hdates hdate hequals hnull).2 ⟨hread, hbool⟩,
          (keeps_among_one_iff hdates hdate hamong).2 hread⟩
    · refine Or.inr fun negated => ⟨(hrefuses_equals hnull).2 fun hkept => hread ?_,
        (hrefuses_among negated _).2 fun hkept => hread ?_⟩
      · exact ((keeps_equals_iff hdates hdate hequals hnull).1 hkept).1
      · exact (keeps_among_one_iff hdates hdate hamong).1 hkept
  · have hnull : v.isNull = false := by
      cases v <;> first | rfl | cases hbool
    refine ⟨(hrefuses_equals hnull).2 fun hkept => ?_, ?_⟩
    · exact ((keeps_equals_iff hdates hdate hequals hnull).1 hkept).2 ⟨hkind, hbool⟩
    · exact (keeps_among_one_iff hdates hdate hamong).2 (Attribute.reads_bool hkind hbool)
  · rw [keeps_among_iff hdates hdate hamong]
    simp only [reads_iff hdates hdate hequals]

end Target

variable {zone : Zone} {timezone : String}

/-- Rows can be asked for everything but spans of time. -/
theorem canAsk_of_ne_date {store : Store} {now : Instant} {settings : CalendarSettings}
    {d : Dialect} (h : ∀ o, q.operator.resolve q.value ≠ .date o) :
    (Compiler.mk (.relational d) store now timezone settings).CanAsk dates q a := by
  intro t ht
  rcases ConditionInput.window?_eq_none_or_dateTest (Condition.test?_eq_some_iff.1 ht).2 with
    hnone | ⟨o, ho, -⟩
  · exact Clause.exists_ofTest_of_window?_eq_none hnone
  · exact absurd ho (h o)

/-- On a field that is no date, equality and membership judge every value alike that is not null,
for documents as for rows, unless it is a truth value and the field one of texts. -/
theorem values_judged_alike [ZoneSource] (hzone : Zone.ofName? timezone = some zone)
    (hdate : a.isDate = false) (store : Store) (now : Instant) (settings : CalendarSettings)
    (d : Dialect) (q : Condition) :
    (Compiler.mk .document store now timezone settings).JudgesAlike q a ∧
      (Compiler.mk (.relational d) store now timezone settings).JudgesAlike q a := by
  have hrows {o : Operator} {v : Json} (h : ∀ d, o.resolve v ≠ .date d) :
      (Compiler.mk (.relational d) store now timezone settings).CanAsk ⟨now, zone, settings⟩
        { q with operator := o, value := v } a := canAsk_of_ne_date h
  have hequality (negated : Bool) (v : Json) (d : DateOperator) :
      (Operator.equality negated).resolve v ≠ .date d := by
    cases v <;> nofun
  constructor
  · exact judgesAlike (dates_of_ofName? hzone) hdate (fun _ _ _ _ => ⟨_, rfl⟩)
      fun _ _ _ _ => ⟨_, rfl⟩
  · exact judgesAlike (dates_of_ofName? hzone) hdate
      (fun negated v => hrows (hequality negated v)) fun _ _ => hrows nofun

/-- A condition on a name. -/
def named : Condition := ⟨"name", .equality false, .null, none⟩

/-- A condition on a number of visits. -/
def visited : Condition := ⟨"visits", .equality false, .null, none⟩

/-- Rows can be asked for all but some numbers, since they can be asked for each. -/
theorem visited_judged_alike :
    Attribute.isDate .number = false ∧
      (Compiler.mk (.relational .sqlite) ⟨[]⟩ ⟨0, 0⟩ "UTC" .default).Keeps
        (visited.among true (.array [.int 1, .int 2])) .number := by
  have hzone : Zone.ofName? "UTC" = some .utc := rfl
  obtain ⟨-, halike⟩ := values_judged_alike hzone (a := .number) rfl ⟨[]⟩ ⟨0, 0⟩ .default .sqlite
    visited
  refine ⟨rfl, (halike.keeps_list_iff _ _).2 ⟨.int 1, [.int 2], rfl, ?_⟩⟩
  intro x hx
  simp only [List.mem_cons, List.not_mem_nil, or_false] at hx
  rcases hx with rfl | rfl <;> exact ⟨rfl, Or.inl ⟨_, rfl⟩⟩

/-- The value *true* is refused as a name by itself and taken in a list. -/
theorem named_true_judged_apart :
    (Compiler.mk .document ⟨[]⟩ ⟨0, 0⟩ "UTC" .default).Refuses (named.equals false (.bool true))
        .string ∧
      (Compiler.mk .document ⟨[]⟩ ⟨0, 0⟩ "UTC" .default).Keeps
        (named.among false (.array [.bool true])) .string ∧
      (Compiler.mk (.relational .sqlite) ⟨[]⟩ ⟨0, 0⟩ "UTC" .default).Refuses
        (named.equals false (.bool true)) .string ∧
      (Compiler.mk (.relational .sqlite) ⟨[]⟩ ⟨0, 0⟩ "UTC" .default).Keeps
        (named.among false (.array [.bool true])) .string :=
  ⟨⟨_, rfl⟩, ⟨_, rfl⟩, ⟨_, rfl⟩, _, rfl⟩

end Compiler
end RecordFilter
