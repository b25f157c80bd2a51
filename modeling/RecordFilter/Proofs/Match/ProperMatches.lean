import RecordFilter.Match.Basic
import RecordFilter.Proofs.Filter.TestValues
/-!
# Matches without empty parts

Joined matches have two parts or more, the operators of a field are written as at least one member,
lists of values are not empty and bounds are not null. A date that is a bound lies in the calendar,
so it has a start in UTC.

## Main definitions

* `Match.submatches` — a match and the matches within it.
* `Match.IsProper` — a match that is not joined of too few parts or a field without operands.

## Main statements

* `Match.proper_ofTest` — the matches of a test.
* `Match.proper_join` — matches joined.
-/
namespace RecordFilter

/-! ## Operators -/

/-- A member of an operator that takes a bound or a list has one. -/
def HasOperand (member : String × Json) : Prop :=
  (member.1 ∈ ["$gte", "$gt", "$lte", "$lt"] → member.2 ≠ .null) ∧
    (member.1 ∈ ["$in", "$nin"] → ∃ v rest, member.2 = .array (v :: rest))

/-- Dates that are operands have a start. -/
theorem Scalar.toOperand_ne_null {s : Scalar} (h : ∀ d, s = .date d → d.inCalendar = true) :
    s.toOperand ≠ .null := by
  cases s with
  | date d =>
    simp only [toOperand, Zone.midnight_utc (h d rfl)]
    simp [toJson]
  | _ => simp [toOperand, toJson]

namespace MatchOperator

/-- Every member that the operator is written as has its operand. -/
def IsProper (o : MatchOperator) : Prop := ∀ member ∈ o.members, HasOperand member

theorem members_ne_nil (o : MatchOperator) : o.members ≠ [] := by
  cases o with
  | regex pattern negated => cases negated <;> simp [members, regexMembers]
  | _ => simp [members]

theorem isProper_compare (c : Comparator) {s : Scalar} (h : s.toOperand ≠ .null) :
    (compare c (some s)).IsProper := by
  intro member hmember
  obtain rfl : member = (c.key, s.toOperand) := by simpa [members, operandJson] using hmember
  refine ⟨fun _ => h, fun hlist => ?_⟩
  cases c <;> simp [Comparator.key] at hlist

theorem isProper_timestamp (c : Comparator) (t : Instant) :
    (compare c (some (.timestamp t))).IsProper :=
  isProper_compare c (Scalar.toOperand_ne_null fun d hd => by cases hd)

theorem isProper_member {operands : List (Option Scalar)} (negated : Bool) (h : operands ≠ []) :
    (member operands negated).IsProper := by
  intro written hwritten
  cases operands with
  | nil => exact absurd rfl h
  | cons operand rest =>
    obtain rfl : written = (if negated then "$nin" else "$in",
        .array (operandJson operand :: rest.map operandJson)) := by
      simpa [members] using hwritten
    exact ⟨fun hbound => by cases negated <;> simp at hbound, fun _ => ⟨_, _, rfl⟩⟩

theorem isProper_isPresent : isPresent.IsProper := by
  simp [IsProper, members, HasOperand]

theorem isProper_ne_null : (compare .ne none).IsProper := by
  simp [IsProper, members, HasOperand, Comparator.key]

theorem isProper_regex (pattern : String) (negated : Bool) : (regex pattern negated).IsProper := by
  cases negated <;> simp [IsProper, members, regexMembers, HasOperand]

end MatchOperator

/-! ## Matches -/

namespace Match

mutual

/-- The match and the matches within it. -/
def submatches : Match → List Match
  | .and parts => .and parts :: submatchesAll parts
  | .or parts => .or parts :: submatchesAll parts
  | leaf => [leaf]

def submatchesAll : List Match → List Match
  | [] => []
  | m :: rest => submatches m ++ submatchesAll rest

end

theorem submatchesAll_eq_flatMap (parts : List Match) :
    submatchesAll parts = parts.flatMap submatches := by
  induction parts with
  | nil => simp [submatchesAll]
  | cons m rest ih => simp [submatchesAll, ih]

/-- Every match within the match satisfies the property. -/
def Each (P : Match → Prop) (m : Match) : Prop := ∀ s ∈ m.submatches, P s

/-- The match itself joins several parts, or has operators with their operands. -/
def IsProper : Match → Prop
  | .isNull _ => True
  | .field _ operators =>
    let members := operators.flatMap MatchOperator.members
    members ≠ [] ∧ ∀ member ∈ members, HasOperand member
  | .and parts => 2 ≤ parts.length
  | .or parts => 2 ≤ parts.length

theorem proper_join {kind : Connective} {parts : List Match} (hlength : 2 ≤ parts.length)
    (h : ∀ part ∈ parts, part.Each IsProper) : (join kind parts).Each IsProper := by
  cases kind <;>
    simp only [Each, join, submatches, submatchesAll_eq_flatMap, List.forall_mem_cons,
      List.forall_mem_flatMap] <;>
    exact ⟨hlength, h⟩

variable {path : String} {operators : List MatchOperator}

theorem proper_field (hne : operators ≠ []) (h : ∀ o ∈ operators, o.IsProper) :
    (Match.field path operators).Each IsProper := by
  have hproper : (Match.field path operators).IsProper := by
    refine ⟨?_, List.forall_mem_flatMap.2 h⟩
    cases operators with
    | nil => exact absurd rfl hne
    | cons o rest => simp [o.members_ne_nil]
  simpa [Each, submatches] using hproper

theorem proper_operator {o : MatchOperator} (h : o.IsProper) :
    (Match.field path [o]).Each IsProper :=
  proper_field (by simp) (by simpa using h)

theorem proper_operators {o o' : MatchOperator} (h : o.IsProper) (h' : o'.IsProper) :
    (Match.field path [o, o']).Each IsProper :=
  proper_field (by simp) (by simpa using ⟨h, h'⟩)

theorem proper_isNull (path : String) : (Match.isNull path).Each IsProper := by
  simp [Each, submatches, IsProper]

/-- A window has a bound. -/
theorem proper_window (path : String) (w : Window) :
    (Match.field path (windowOperators w)).Each IsProper := by
  have hbound := MatchOperator.isProper_timestamp
  cases w with
  | between start finish => exact proper_operators (hbound .gte start) (hbound .lt finish)
  | since start => exact proper_operator (hbound .gte start)
  | before finish => exact proper_operator (hbound .lt finish)

theorem flagOperands_ne_nil {f : Flags} (h : f ≠ ⟨false, false⟩) : flagOperands f ≠ [] := by
  rcases f with ⟨_ | _, _ | _⟩ <;> simp_all [flagOperands]

/-- The match of a test that has members and dates of the calendar has no empty part. -/
theorem proper_ofTest {t : Test} (path : String) (ht : t.HasMembers)
    (hdates : ∀ d, .date d ∈ t.scalars → d.inCalendar = true) :
    (ofTest path t).Each IsProper := by
  have hcompare (c : Comparator) {s : Scalar} (hs : s ∈ t.scalars) :
      (MatchOperator.compare c (some s)).IsProper :=
    MatchOperator.isProper_compare c (Scalar.toOperand_ne_null fun d hd => hdates d (hd ▸ hs))
  have hmember {ss : List Scalar} (negated : Bool) (hss : ss ≠ []) :
      (membership path ss negated).Each IsProper :=
    proper_operator (MatchOperator.isProper_member negated (by simpa using hss))
  cases t with
  | compare c s => exact proper_operator (hcompare _ (by simp [Test.scalars]))
  | pattern anchor text negated =>
    cases negated with
    | false => exact proper_operator (MatchOperator.isProper_regex _ _)
    | true =>
      exact proper_operators MatchOperator.isProper_ne_null (MatchOperator.isProper_regex _ _)
  | sameText text negated => exact proper_operator (MatchOperator.isProper_regex _ _)
  | equal s negated => exact proper_operator (hcompare _ (by simp [Test.scalars]))
  | contains s negated => exact proper_operator (hcompare _ (by simp [Test.scalars]))
  | isNull negated =>
    cases negated with
    | false => exact proper_isNull path
    | true =>
      exact proper_operators MatchOperator.isProper_isPresent MatchOperator.isProper_ne_null
  | member ss negated => exact hmember negated ht
  | containsAny ss negated => exact hmember negated ht
  | flags f negated =>
    exact proper_operator (MatchOperator.isProper_member negated (flagOperands_ne_nil ht))
  | range low high =>
    have hlow := hcompare .gte (s := low) (by simp [Test.scalars])
    have hhigh (c : Comparator) := hcompare c (s := high.scalar) (by simp [Test.scalars])
    cases high with
    | inclusive high => exact proper_operators hlow (hhigh .lte)
    | exclusive high => exact proper_operators hlow (hhigh .lt)
  | window w => exact proper_window path w
  | wholeDays w => exact proper_window path w

end Match
end RecordFilter
