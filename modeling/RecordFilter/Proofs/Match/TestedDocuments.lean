import RecordFilter.Proofs.Match.ExtendedValues
import RecordFilter.Proofs.Text.PlainPatterns
/-!
# Tests of documents

The match that asks a test selects exactly the documents in which the field meets the test. Each
operator of a match says something of the values of the field; a test is put together from them.

## Main statements

* `Match.selects_ofTest_iff` — the documents that a test selects.
-/
namespace RecordFilter

variable {v : Option Value} {found : Option Json} {k : ScalarKind} {s : Scalar}
  {same : Char → Char → Bool}

namespace Json

theorem fieldCompares_eq_any {c : Comparator} (heq : c ≠ .eq) (hne : c ≠ .ne) (w : Json) :
    fieldCompares c found w = (candidates found).any fun x => (x.compare? w).any c.accepts := by
  cases c with
  | eq => exact absurd rfl heq
  | ne => exact absurd rfl hne
  | _ => rfl

/-- A field compares with an operand if one of its values does. -/
theorem fieldCompares_toOperand_iff (hf : Value.IsFoundAs v found) (hv : Value.AreStored k v)
    (hk : s.kind = k) (hs : s.IsStored) {c : Comparator} (heq : c ≠ .eq) (hne : c ≠ .ne) :
    fieldCompares c found s.toOperand = true ↔ ∃ w ∈ Value.members v, w.Compares c s := by
  rw [Scalar.toOperand_eq hs, fieldCompares_eq_any heq hne, hf.any_candidates rfl,
    List.any_eq_true]
  refine exists_congr fun w => and_congr_right fun hw => ?_
  obtain ⟨hwk, hws⟩ := hv w hw
  rw [Scalar.compare?_toJson hws hs (hwk.trans hk.symm), Option.any_eq_true]
  rfl

theorem fieldEquals_toOperand_iff (hf : Value.IsFoundAs v found) (hv : Value.AreStored k v)
    (hk : s.kind = k) (hs : s.IsStored) :
    fieldEquals found s.toOperand = true ↔ ∃ w ∈ Value.members v, w.Compares .eq s := by
  rw [Scalar.toOperand_eq hs, fieldEquals, if_neg (by simp), hf.any_candidates (by rfl),
    List.any_eq_true]
  refine exists_congr fun w => and_congr_right fun hw => ?_
  obtain ⟨hwk, hws⟩ := hv w hw
  rw [Scalar.compare?_toJson hws hs (hwk.trans hk.symm), decide_eq_true_eq]
  simp [Scalar.Compares, Comparator.accepts]

/-- A field of times compares with the bound of a window as the instants of its values do. -/
theorem fieldCompares_timestamp_iff (hf : Value.IsFoundAs v found) (hv : Value.AreStored k v)
    (hk : k = .date ∨ k = .timestamp) {b : Instant} (hb : b.IsStored) {c : Comparator}
    (heq : c ≠ .eq) (hne : c ≠ .ne) :
    fieldCompares c found (Scalar.timestamp b).toOperand = true ↔
      ∃ w ∈ Value.members v, ∃ u, w.instant? = some u ∧ c.accepts (u.order b) = true := by
  have htoJson : (Scalar.timestamp b).toOperand = (Scalar.timestamp b).toJson := rfl
  rw [htoJson, fieldCompares_eq_any heq hne, hf.any_candidates rfl, List.any_eq_true]
  refine exists_congr fun w => and_congr_right fun hw => ?_
  obtain ⟨hwk, hws⟩ := hv w hw
  obtain ⟨u, hu⟩ : ∃ u, w.instant? = some u := by
    rcases hk with rfl | rfl <;> cases w <;> first | exact ⟨_, rfl⟩ | cases hwk
  rw [Scalar.compare?_toJson_timestamp hws hb hu]
  simp [hu]

/-- A field with one value meets the expression of a text if the text occurs in the value. -/
theorem fieldMatches_regexOf_iff (same : Char → Char → Bool) (hf : Value.IsFoundAs v found)
    (hv : v = none ∨ ∃ s, v = some (.scalar s)) (anchor : Anchor) (text : String) :
    fieldMatches same found (Match.regexOf anchor text) = true ↔
      Value.HasText same anchor text v := by
  simp only [fieldMatches, Match.regexOf, Text.readRegex?_regexPattern]
  rw [hf.any_candidates rfl]
  rcases hv with rfl | ⟨s, rfl⟩
  · simp [Value.members, Value.HasText]
  · cases s with
    | text s =>
      simp [Value.members, Value.HasText, Scalar.toJson, toString?,
        Text.regexAccepts_regexParts_iff]
    | _ => simp [Value.members, Value.HasText, Scalar.toJson, toString?]

end Json

namespace Match

/-- The operators of a window hold of a field with one time if the time is within the window. -/
theorem accepts_windowOperators_iff (hf : Value.IsFoundAs v found) (hv : Value.AreStored k v)
    (hk : k = .date ∨ k = .timestamp) (hone : v = none ∨ ∃ s, v = some (.scalar s)) {w : Window}
    (hw : ∀ b ∈ w.start?.toList ++ w.finish?.toList, Moment.IsStored b) :
    (windowOperators w).all (MatchOperator.accepts same found) = true ↔ Value.IsWithin w v := by
  have hgte {b : Instant} (hb : b.IsStored) := Json.fieldCompares_timestamp_iff hf hv hk hb
    (c := .gte) (by decide) (by decide)
  have hlt {b : Instant} (hb : b.IsStored) := Json.fieldCompares_timestamp_iff hf hv hk hb
    (c := .lt) (by decide) (by decide)
  simp only [Moment.accepts_gte_order_iff, Moment.accepts_lt_order_iff] at hgte hlt
  cases w with
  | since start =>
    simp [windowOperators, Window.start?, Window.finish?, MatchOperator.accepts,
      MatchOperator.operandJson, hgte (hw start (by simp [Window.start?])), Value.IsWithin,
      Window.Contains]
  | before finish =>
    simp [windowOperators, Window.start?, Window.finish?, MatchOperator.accepts,
      MatchOperator.operandJson, hlt (hw finish (by simp [Window.finish?])), Value.IsWithin,
      Window.Contains]
  | between start finish =>
    simp only [windowOperators, Window.start?, Window.finish?, Option.map_some,
      Option.toList_some, List.cons_append, List.nil_append, List.all_cons, List.all_nil,
      Bool.and_true, Bool.and_eq_true, MatchOperator.accepts, MatchOperator.operandJson,
      hgte (hw start (by simp [Window.start?])), hlt (hw finish (by simp [Window.finish?])),
      Value.IsWithin, Window.Contains]
    rcases hone with rfl | ⟨s, rfl⟩
    · simp [Value.members]
    · cases hs : s.instant? <;> simp [Value.members, hs]

theorem any_flagOperands (f : Flags) (p : Option Scalar → Bool) :
    (flagOperands f).any p =
      (f.wantsTrue && p (some (.bool true)) ||
        f.wantsFalse && (p (some (.bool false)) || p none)) := by
  rcases f with ⟨_ | _, _ | _⟩ <;> simp [flagOperands]

theorem accepts_flagOperands_iff (hf : Value.IsFoundAs v found)
    (hv : v = none ∨ ∃ b, v = some (.scalar (.bool b))) (f : Flags) :
    ((flagOperands f).any fun operand =>
      Json.fieldEquals found (MatchOperator.operandJson operand)) = true ↔ f.Covers v := by
  rw [any_flagOperands]
  rcases hv with rfl | ⟨b, rfl⟩
  · rcases hf with rfl | rfl <;>
      simp [MatchOperator.operandJson, Scalar.toOperand, Scalar.toJson, Json.fieldEquals,
        Json.isNull, Json.candidates, Json.compare?, Json.toScalar?, Flags.Covers]
  · obtain rfl : found = some (Value.scalar (.bool b)).toJson := hf
    cases b <;>
      simp [MatchOperator.operandJson, Value.toJson, Scalar.toOperand, Scalar.toJson,
        Json.fieldEquals, Json.isNull, Json.candidates, Json.compare?, Json.toScalar?, Flags.Covers,
        Scalar.compare?]

variable {path : String} {document : Json} {ss : List Scalar}

theorem selects_equality_iff (negated : Bool)
    (h : Json.fieldEquals (document.at? path) s.toOperand = true ↔
      ∃ w ∈ Value.members v, w.Compares .eq s) :
    (equality path s negated).selects same document = true ↔
      (Value.IsAmong [s] v ↔ negated = false) := by
  have hamong : Value.IsAmong [s] v ↔ Json.fieldEquals (document.at? path) s.toOperand = true := by
    simp [Value.IsAmong, h]
  rw [hamong]
  cases negated <;>
    simp [equality, selects, MatchOperator.accepts, MatchOperator.operandJson, Json.fieldCompares]

theorem selects_membership_iff (negated : Bool)
    (h : ∀ s ∈ ss, Json.fieldEquals (document.at? path) s.toOperand = true ↔
      ∃ w ∈ Value.members v, w.Compares .eq s) :
    (membership path ss negated).selects same document = true ↔
      (Value.IsAmong ss v ↔ negated = false) := by
  have hamong : Value.IsAmong ss v ↔
      (ss.any fun s => Json.fieldEquals (document.at? path) s.toOperand) = true := by
    rw [List.any_eq_true]
    exact exists_congr fun s => and_congr_right fun hs => (h s hs).symm
  rw [hamong]
  cases negated <;>
    simp [membership, selects, MatchOperator.accepts, MatchOperator.operandJson, List.any_map,
      Function.comp_def]

/-- A document is selected by the match of a test exactly if the field meets the test. -/
theorem selects_ofTest_iff {t : Test} {a : Attribute}
    (hf : Value.IsFoundAs v (document.at? path)) (ha : a.Allows v) (ht : t.Fits a)
    (hs : t.IsStored) :
    (ofTest path t).selects same document = true ↔ t.Holds same v := by
  have hv := ha.areStored
  have hequals {s : Scalar} (h : s ∈ t.scalars) :=
    Json.fieldEquals_toOperand_iff hf hv (ht.kinds s h) (hs.scalars s h)
  have hcompares {s : Scalar} {c : Comparator} (h : s ∈ t.scalars) (heq : c ≠ .eq)
      (hne : c ≠ .ne) :=
    Json.fieldCompares_toOperand_iff hf hv (ht.kinds s h) (hs.scalars s h) heq hne
  have hsuits := ht.suits
  have hbounds := hs.bounds
  cases t with
  | compare c s =>
    have := hcompares (s := s) (c := c.comparator) (by simp [Test.scalars])
      (by cases c <;> decide) (by cases c <;> decide)
    simpa [ofTest, selects, MatchOperator.accepts, MatchOperator.operandJson, Test.Holds] using this
  | pattern anchor text negated =>
    have hmatches := Json.fieldMatches_regexOf_iff same hf
      (ha.eq_scalar (a.kind_of_isText hsuits)) anchor text
    cases negated with
    | false => simpa [ofTest, selects, MatchOperator.accepts, Test.Holds] using hmatches
    | true =>
      simp [ofTest, selects, MatchOperator.accepts, MatchOperator.operandJson, Test.Holds,
        Json.fieldCompares, ← hmatches, ← hf.equals_null]
  | sameText text negated =>
    have hmatches := Json.fieldMatches_regexOf_iff same hf
      (ha.eq_scalar (by simp_all [Test.suits])) .whole text
    rw [ofTest, selects, Test.Holds, ← hmatches]
    cases negated <;> simp [MatchOperator.accepts]
  | equal s negated => exact selects_equality_iff negated (hequals (by simp [Test.scalars]))
  | contains s negated => exact selects_equality_iff negated (hequals (by simp [Test.scalars]))
  | isNull negated =>
    cases negated with
    | false => simpa [ofTest, selects, Test.Holds] using hf.equals_null
    | true =>
      have : v ≠ none → (document.at? path).isSome = true := hf.isSome_of_ne
      simpa [ofTest, selects, MatchOperator.accepts, MatchOperator.operandJson, Test.Holds,
        Json.fieldCompares, ← hf.equals_null] using this
  | member ss negated => exact selects_membership_iff negated fun s hs => hequals hs
  | containsAny ss negated => exact selects_membership_iff negated fun s hs => hequals hs
  | flags f negated =>
    have hflags := accepts_flagOperands_iff hf (ha.eq_bool (by simpa [Test.suits] using hsuits)) f
    rw [ofTest, selects, Test.Holds, ← hflags]
    cases negated <;> simp [MatchOperator.accepts]
  | range low high =>
    have hlow := hcompares (s := low) (c := .gte) (by simp [Test.scalars]) (by decide) (by decide)
    have hhigh := hcompares (s := high.scalar) (c := high.comparator) (by simp [Test.scalars])
      (by cases high <;> simp [UpperBound.comparator])
      (by cases high <;> simp [UpperBound.comparator])
    rw [Test.Holds, ← hlow, ← hhigh]
    cases high <;>
      simp [ofTest, selects, MatchOperator.accepts, MatchOperator.operandJson, upperOperator,
        UpperBound.comparator, UpperBound.scalar]
  | window w =>
    rw [ofTest, selects]
    exact accepts_windowOperators_iff hf hv (a.scalarKind_of_isDate hsuits)
      (ha.eq_scalar (a.kind_of_isDate hsuits)) hbounds
  | wholeDays w =>
    rw [ofTest, selects]
    exact accepts_windowOperators_iff hf hv (a.scalarKind_of_isDate hsuits)
      (ha.eq_scalar (a.kind_of_isDate hsuits)) hbounds

end Match
end RecordFilter
