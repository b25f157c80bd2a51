import RecordFilter.Calendar.ZoneTable
import RecordFilter.Proofs.Filter.TakenValues
import RecordFilter.Proofs.Filter.WrittenIntegers
import RecordFilter.Proofs.Plan.SingleConditions
import RecordFilter.Proofs.Sql.WindowBounds
/-!
# Integers in conditions

A condition on a numeric field asks for the integers that it is given, as long as they fit 64 bits
with a sign; then it does not matter whether they are given as numbers or as texts of digits. Larger
ones are kept by documents where they are given as numbers. Everywhere else the nearest double
stands for them, which is another integer unless 2048 divides them.

## Main definitions

* `Operator.valueOf?` — the value in which an operator takes integers.
* `Operator.numericTest?` — the test that is asked for them.
* `SqlValue.toRat?` — the exact value of a parameter.

## Main statements

* `ConditionInput.exists_test_of_valueOf?` — integers are always taken.
* `Clause.params_ofTest`, `Match.numbers_ofTest` — values of tests in clauses and matches.
* `Compiler.integers_kept` — integers from conditions to predicates.
-/
namespace RecordFilter

namespace Operator

/-- The value in which an operator takes integers: one by itself, a list of some, or two bounds. -/
def valueOf? : Operator → List WrittenInt → Option Json
  | .compare _, [w] => some w.toJson
  | .equality _, [w] => some w.toJson
  | .membership _, w :: ws => some (.array (w.toJson :: ws.map WrittenInt.toJson))
  | .between, [low, high] => some (.array [low.toJson, high.toJson])
  | _, _ => none

/-- The test that the operator asks of a numeric attribute for some values. -/
def numericTest? (a : Attribute) : Operator → List Scalar → Option Test
  | .compare c, [s] => some (.compare c s)
  | .equality negated, [s] =>
    some (if a.kind = .choices then .contains s negated else .equal s negated)
  | .membership negated, ss =>
    some (if a.kind = .choices then .containsAny ss negated else .member ss negated)
  | .between, [low, high] => some (.range low (.inclusive high))
  | _, _ => none

variable {a : Attribute} {o : Operator} {ss : List Scalar} {t : Test}

theorem ne_nil_of_valueOf? {ws : List WrittenInt} {v : Json} (h : o.valueOf? ws = some v) :
    ws ≠ [] := by
  rintro rfl
  cases o <;> cases h

/-- An integer is not null. -/
theorem resolve_of_valueOf? {ws : List WrittenInt} {v : Json} (h : o.valueOf? ws = some v) :
    o.resolve v = o := by
  unfold valueOf? at h
  split at h
  · rfl
  · next w => cases w <;> cases h <;> rfl
  · rfl
  · rfl
  · cases h

theorem scalars_of_numericTest? (h : o.numericTest? a ss = some t) : t.scalars = ss := by
  unfold numericTest? at h
  split at h
  · cases h
    rfl
  · cases h
    split <;> rfl
  · cases h
    split <;> rfl
  · cases h
    rfl
  · cases h

end Operator

/-! ## Tests of numeric attributes -/

theorem Attribute.kind_ne_of_numeric {a : Attribute} (ha : a.scalarKind = .number) :
    a.kind ≠ .string ∧ a.kind ≠ .boolean ∧ a.kind ≠ .date := by
  cases a with
  | date format => cases format <;> cases ha
  | string | boolean => cases ha
  | _ => simp [kind]

/-- Only a date can stand for more than one value. -/
theorem Attribute.coerceUpper_of_kind {a : Attribute} (ha : a.kind ≠ .date) (dates : DateContext)
    (v : Json) : a.coerceUpper dates v = (a.coerce dates v).map .inclusive := by
  cases a with
  | date format => exact absurd rfl ha
  | _ => rfl

namespace ConditionInput

variable {i : ConditionInput}

/-- Integers of 64 bits are always taken. -/
theorem exists_test_of_valueOf? {ws : List WrittenInt} (ha : i.type.scalarKind = .number)
    (hws : ∀ w ∈ ws, Takes64Bits w.value) (h : i.operator.valueOf? ws = some i.value) :
    ∃ t, i.test = .ok (some t) ∧
      i.operator.numericTest? i.type (ws.map WrittenInt.scalar) = some t := by
  obtain ⟨hstring, hboolean, hdate⟩ := Attribute.kind_ne_of_numeric ha
  have hcoerce (w : WrittenInt) (hw : w ∈ ws) : i.type.coerce i.dates w.toJson = .ok w.scalar :=
    Attribute.coerce_toJson ha (hws w hw)
  unfold Operator.valueOf? at h
  split at h
  · next c w ho =>
    have hs : i.scalar = .ok w.scalar := by
      rw [scalar, ← Option.some.inj h]
      exact hcoerce w (by simp)
    simp [test, ho, hs, Operator.numericTest?]
  · next negated w ho =>
    have hs : i.scalar = .ok w.scalar := by
      rw [scalar, ← Option.some.inj h]
      exact hcoerce w (by simp)
    simp [test, ho, equalityTest_eq hstring, hs, Except.map, Operator.numericTest?]
  · next negated w ws ho =>
    have hss : i.scalars = .ok ((w :: ws).map WrittenInt.scalar) := by
      rw [scalars, ← Option.some.inj h]
      exact Attribute.coerceAll_toJson ha hws
    cases hkind : i.type.kind <;>
      simp_all [test, membershipTest_eq, Except.map, Operator.numericTest?]
  · next low high ho =>
    have hrange : i.range = .ok (low.scalar, .inclusive high.scalar) := by
      rw [range, ← Option.some.inj h]
      simp [Attribute.coerceRange, hcoerce, Attribute.coerceUpper_of_kind hdate, Except.map,
        Results.ok_bind]
    simp [test, ho, hrange, Operator.numericTest?]
  · cases h

end ConditionInput

/-! ## Predicates -/

/-- The parameters of a clause are the values that its test compares with. -/
theorem Clause.params_ofTest {anyCase dateOnly : Bool} {column : Column} {t : Test} {c : Clause}
    (hne : t.scalars ≠ []) (h : ofTest anyCase dateOnly column t = .ok c) :
    c.params = t.scalars.map value := by
  have hany (values : List SqlValue) : (containsAny column values).params = values := by
    have hparts : paramsAll (values.map (Clause.contains column)) = values := by
      induction values with
      | nil => rfl
      | cons v rest ih => simp [paramsAll, params, ih]
    unfold containsAny
    split
    · next part hpart =>
      rw [← hparts, hpart]
      simp [paramsAll]
    · exact hparts
  cases t with
  | compare op s =>
    cases h
    rfl
  | equal s negated | contains s negated | member ss negated =>
    cases negated <;> cases h <;> simp [Test.scalars, params, paramsAll, orNull]
  | containsAny ss negated =>
    cases negated <;> cases h <;> simp [Test.scalars, params, paramsAll, orNull, hany]
  | range low high =>
    cases h
    cases high <;> rfl
  | _ => exact absurd rfl hne

/-- The numbers in a written match are those that its test compares with. -/
theorem Match.numbers_ofTest {t : Test} {ns : List Number} (hne : t.scalars ≠ [])
    (hns : t.scalars = ns.map .number) (path : String) :
    (ofTest path t).toJson.numbers = ns := by
  have hfield (operators : List MatchOperator) : (field path operators).toJson.numbers =
      Json.numbersOfMembers (operators.flatMap MatchOperator.members) := by
    simp [toJson, Json.numbers, Json.numbersOfMembers]
  have hlist (ns : List Number) : Json.numbersOfItems
      (ns.map (MatchOperator.operandJson ∘ some ∘ Scalar.number)) = ns := by
    induction ns with
    | nil => rfl
    | cons n ns ih =>
      simp [Json.numbersOfItems, MatchOperator.operandJson, Scalar.toOperand, Scalar.toJson,
        Json.numbers, ih]
  cases t with
  | compare op s | equal s negated | contains s negated =>
    obtain ⟨n, rfl, rfl⟩ := List.map_eq_singleton_iff.1 hns.symm
    rfl
  | member ss negated | containsAny ss negated =>
    obtain rfl : ss = ns.map .number := hns
    simp [ofTest, membership, hfield, MatchOperator.members, Json.numbersOfMembers, Json.numbers,
      hlist]
  | range low high =>
    obtain ⟨n, _, rfl, rfl, hhigh⟩ := List.map_eq_cons_iff.1 hns.symm
    obtain ⟨m, rfl, hm⟩ := List.map_eq_singleton_iff.1 hhigh
    cases high <;> cases hm <;> rfl
  | _ => exact absurd rfl hne

/-- Where the values are the same for rows, so are the clauses. -/
theorem Clause.ofTest_numericTest? {a : Attribute} {o : Operator} {ss ss' : List Scalar}
    {t t' : Test} (h : o.numericTest? a ss = some t) (h' : o.numericTest? a ss' = some t')
    (hsame : ss.map value = ss'.map value) (anyCase dateOnly : Bool) (column : Column) :
    ofTest anyCase dateOnly column t = ofTest anyCase dateOnly column t' := by
  unfold Operator.numericTest? at h
  split at h
  · next c s =>
    obtain ⟨s', rfl, hs⟩ := List.map_eq_singleton_iff.1 hsame.symm
    cases h
    cases h'
    simp [ofTest, hs]
  · next negated s =>
    obtain ⟨s', rfl, hs⟩ := List.map_eq_singleton_iff.1 hsame.symm
    cases h
    cases h'
    cases negated <;> split <;> simp [ofTest, hs]
  · next negated =>
    cases h
    cases h'
    cases negated <;> split <;> simp [ofTest, hsame]
  · next low high =>
    obtain ⟨low', _, rfl, hlow, hrest⟩ := List.map_eq_cons_iff.1 hsame.symm
    obtain ⟨high', rfl, hhigh⟩ := List.map_eq_singleton_iff.1 hrest
    cases h
    cases h'
    simp [ofTest, range, hlow, hhigh]
  · cases h

/-! ## Integers as parameters -/

/-- The exact value of a number. -/
def SqlValue.toRat? : SqlValue → Option Rat
  | .int z => some z
  | .float x => x.toRat?
  | _ => none

/-- Rows do not tell the spellings of an integer apart. -/
theorem WrittenInt.value_scalar (w : WrittenInt) :
    Clause.value w.scalar = Clause.value (.number (.int w.value)) := by
  cases w with
  | number z => rfl
  | digits z =>
    cases hfits : fitsInt64 z <;>
      simp [scalar, read, value, Clause.value, Number.toInt64?, hfits, Number.toBinary64]

theorem WrittenInt.map_value_scalar (ws : List WrittenInt) :
    (ws.map scalar).map Clause.value =
      (ws.map value).map fun z => Clause.value (.number (.int z)) := by
  rw [List.map_map, List.map_map]
  exact List.map_congr_left fun w _ => w.value_scalar

theorem Clause.approximates_value {z : Int} (hz : Takes64Bits z) :
    Approximates (value (.number (.int z))).toRat? z (fitsInt64 z = true ∨ 2048 ∣ z) := by
  by_cases hfits : fitsInt64 z = true
  · have hvalue : value (.number (.int z)) = .int z := by simp [value, hfits]
    rw [hvalue]
    exact Approximates.of_exact (Or.inl hfits)
  · have hvalue : value (.number (.int z)) = .float (.ofInt z) := by
      simp [value, Number.toInt64?, hfits, Number.toBinary64]
    rw [hvalue]
    simpa [hfits, SqlValue.toRat?] using Binary64.approximates_ofInt hz hfits

namespace Condition

variable {q : Condition} {dates : DateContext} {a : Attribute} {ws : List WrittenInt}

theorem exists_test?_of_valueOf? (ha : a.scalarKind = .number)
    (hallowed : q.operator.applicability a = .allowed) (hws : ∀ w ∈ ws, Takes64Bits w.value)
    (h : q.operator.valueOf? ws = some q.value) :
    ∃ t, q.test? dates a = some t ∧
      q.operator.numericTest? a (ws.map WrittenInt.scalar) = some t := by
  have hresolve := Operator.resolve_of_valueOf? h
  have hoperator : (q.input dates a).operator = q.operator := hresolve
  obtain ⟨t, htest, ht⟩ := ConditionInput.exists_test_of_valueOf? (i := q.input dates a) ha hws
    (hoperator.symm ▸ h)
  exact ⟨t, test?_eq_some_iff.2 ⟨hresolve.symm ▸ hallowed, htest⟩, hoperator ▸ ht⟩

end Condition

namespace Compiler

variable {zone : Zone} {timezone : String} {a : Attribute} {q : Condition} {ws : List WrittenInt}

/-- Documents and rows are asked for the integers of a condition, in the order in which it gives
them: documents for what is read of them, rows for the same values whatever the spelling. What is
read is the integer itself if it is given as a number, and both are if it fits 64 bits with a sign
or 2048 divides it; if not, they are another integer. -/
theorem integers_kept [ZoneSource] (hzone : Zone.ofName? timezone = some zone)
    (ha : a.scalarKind = .number) (hallowed : q.operator.applicability a = .allowed)
    (hws : ∀ w ∈ ws, Takes64Bits w.value) (hv : q.operator.valueOf? ws = some q.value)
    (store : Store) (now : Instant) (settings : CalendarSettings) (d : Dialect) :
    let documents := Compiler.mk .document store now timezone settings
    let rows := Compiler.mk (.relational d) store now timezone settings
    (∃ t m c, q.test? ⟨now, zone, settings⟩ a = some t ∧
      t.scalars = ws.map WrittenInt.scalar ∧
      documents.condition q (some a) = .ok (.kept m none) ∧
      m.toJson.numbers = ws.map WrittenInt.read ∧
      rows.condition q (some a) = .ok (.kept c none) ∧
      c.params = (ws.map WrittenInt.value).map fun z => Clause.value (.number (.int z))) ∧
    (∀ ws' v, q.operator.valueOf? ws' = some v →
      ws'.map WrittenInt.value = ws.map WrittenInt.value →
        rows.condition { q with value := v } (some a) = rows.condition q (some a) ∧
        ((∀ w ∈ ws, fitsInt64 w.value = true) →
          documents.condition { q with value := v } (some a) =
            documents.condition q (some a))) ∧
    ∀ w ∈ ws,
      Approximates w.read.toRat? w.value
        (w = .number w.value ∨ fitsInt64 w.value = true ∨ 2048 ∣ w.value) ∧
      Approximates (Clause.value (.number (.int w.value))).toRat? w.value
        (fitsInt64 w.value = true ∨ 2048 ∣ w.value) := by
  intro documents rows
  have hdocuments : documents.dates = .ok ⟨now, zone, settings⟩ := dates_of_ofName? hzone
  have hrows : rows.dates = .ok ⟨now, zone, settings⟩ := dates_of_ofName? hzone
  obtain ⟨t, ht, hnumeric⟩ := @Condition.exists_test?_of_valueOf? q ⟨now, zone, settings⟩ a ws ha
    hallowed hws hv
  have hscalars := Operator.scalars_of_numericTest? hnumeric
  have hne : t.scalars ≠ [] := by
    rw [hscalars]
    simpa using Operator.ne_nil_of_valueOf? hv
  have hwindow : t.window? = none := by
    cases t <;> first | rfl | exact absurd rfl hne
  obtain ⟨c, hc⟩ : ∃ c, Clause.ofTest d.hasILike a.isDateOnly ⟨none, q.field⟩ t = .ok c :=
    Clause.exists_ofTest_of_window?_eq_none hwindow
  have hdocument := (condition_eq_kept_iff hdocuments).2 ⟨t, ht, rfl⟩
  have hrow := (condition_eq_kept_iff hrows).2 ⟨t, ht, hc⟩
  refine ⟨⟨t, _, c, ht, hscalars, hdocument, Match.numbers_ofTest hne ?_ _, hrow, ?_⟩,
    fun ws' v hv' hsame => ?_, fun w hw =>
      ⟨WrittenInt.approximates_read (hws w hw), Clause.approximates_value (hws w hw)⟩⟩
  · rw [hscalars, List.map_map]
    rfl
  · rw [Clause.params_ofTest hne hc, hscalars, WrittenInt.map_value_scalar]
  · have hws' : ∀ w ∈ ws', Takes64Bits w.value := WrittenInt.forall_value_of_map_eq hsame hws
    obtain ⟨t', ht', hnumeric'⟩ := @Condition.exists_test?_of_valueOf? { q with value := v }
      ⟨now, zone, settings⟩ a ws' ha hallowed hws' hv'
    refine ⟨?_, fun hfits => ?_⟩
    · have hvalues : (ws'.map WrittenInt.scalar).map Clause.value =
          (ws.map WrittenInt.scalar).map Clause.value := by
        rw [WrittenInt.map_value_scalar, WrittenInt.map_value_scalar, hsame]
      rw [hrow, condition_eq_kept_iff hrows]
      exact ⟨t', ht', (Clause.ofTest_numericTest? hnumeric' hnumeric hvalues _ _ _).trans hc⟩
    · rw [WrittenInt.map_scalar_eq hsame hfits, hnumeric] at hnumeric'
      obtain rfl := Option.some.inj hnumeric'
      rw [hdocument, condition_eq_kept_iff hdocuments]
      exact ⟨t, ht', rfl⟩

/-- Orders with a total. -/
def totalIs (w : WrittenInt) : Condition := ⟨"total", .equality false, w.toJson, none⟩

/-- An integer beside the doubles, as digits. -/
theorem totalIs_kept :
    Takes64Bits 9007199254740993 ∧ ∃ m c,
      (Compiler.mk .document ⟨[]⟩ ⟨0, 0⟩ "UTC" .default).condition
          (totalIs (.digits 9007199254740993)) (some .number) = .ok (.kept m none) ∧
        m.toJson.numbers = [.int 9007199254740993] ∧
      (Compiler.mk (.relational .sqlite) ⟨[]⟩ ⟨0, 0⟩ "UTC" .default).condition
          (totalIs (.digits 9007199254740993)) (some .number) = .ok (.kept c none) ∧
        c.params = [.int 9007199254740993] := by
  have hfits : Takes64Bits 9007199254740993 := by simp [Takes64Bits]
  obtain ⟨⟨t, m, c, -, -, hdocument, hnumbers, hrow, hparams⟩, -⟩ :=
    @integers_kept .utc "UTC" .number (totalIs (.digits 9007199254740993))
      [.digits 9007199254740993] _ rfl rfl rfl (by simpa [WrittenInt.value] using hfits) rfl ⟨[]⟩
      ⟨0, 0⟩ .default .sqlite
  exact ⟨hfits, m, c, hdocument, hnumbers, hrow, hparams⟩

theorem condition_totalIs {P : Type} {target : Target P} {w : WrittenInt} {p : P}
    (hw : Takes64Bits w.value)
    (hp : target.ofTest false ⟨none, "total"⟩ (.equal w.scalar false) = .ok p) :
    (Compiler.mk target ⟨[]⟩ ⟨0, 0⟩ "UTC" .default).condition (totalIs w) (some .number) =
      .ok (.kept p none) := by
  have hdates : (Compiler.mk target ⟨[]⟩ ⟨0, 0⟩ "UTC" .default).dates =
      .ok ⟨⟨0, 0⟩, .utc, .default⟩ := by
    have hzone : Zone.ofName? "UTC" = some .utc := rfl
    simp [dates, hzone]
  obtain ⟨t, ht, hnumeric⟩ := @Condition.exists_test?_of_valueOf? (totalIs w)
    ⟨⟨0, 0⟩, .utc, .default⟩ .number [w] rfl rfl (by simpa using hw) rfl
  obtain rfl : Test.equal w.scalar false = t := Option.some.inj hnumeric
  exact (condition_eq_kept_iff hdates).2 ⟨_, ht, hp⟩

/-- An integer that needs all 64 bits: documents are asked for another one if it is given as digits,
and rows are in either case. -/
theorem totalIs_rounded :
    Takes64Bits 9223372036854775809 ∧ ∃ x m m' c,
      (Compiler.mk .document ⟨[]⟩ ⟨0, 0⟩ "UTC" .default).condition
          (totalIs (.number 9223372036854775809)) (some .number) = .ok (.kept m none) ∧
        m.toJson.numbers = [.int 9223372036854775809] ∧
      (Compiler.mk .document ⟨[]⟩ ⟨0, 0⟩ "UTC" .default).condition
          (totalIs (.digits 9223372036854775809)) (some .number) = .ok (.kept m' none) ∧
        m'.toJson.numbers = [.float x] ∧
      (Compiler.mk (.relational .sqlite) ⟨[]⟩ ⟨0, 0⟩ "UTC" .default).condition
          (totalIs (.number 9223372036854775809)) (some .number) = .ok (.kept c none) ∧
        c.params = [.float x] ∧
      x.toRat? = some 9223372036854775808 := by
  have hfits : Takes64Bits 9223372036854775809 := by simp [Takes64Bits]
  have hread : (WrittenInt.digits 9223372036854775809).read =
      .float (.ofInt 9223372036854775809) := by decide +kernel
  have hvalue : Clause.value (WrittenInt.number 9223372036854775809).scalar =
      .float (.ofInt 9223372036854775809) := by decide +kernel
  refine ⟨hfits, .ofInt 9223372036854775809, _, _, _, condition_totalIs hfits rfl, ?_,
    condition_totalIs hfits rfl, ?_, condition_totalIs hfits rfl, ?_, by decide +kernel⟩
  · exact Match.numbers_ofTest (by simp [Test.scalars]) rfl _
  · exact Match.numbers_ofTest (by simp [Test.scalars]) (by rw [← hread]; rfl) _
  · exact congrArg (fun v => [v]) hvalue

end Compiler
end RecordFilter
