import RecordFilter.Calendar.ZoneTable
import RecordFilter.Proofs.Plan.ConditionTests
import RecordFilter.Proofs.Filter.TreeFolds
import RecordFilter.Proofs.Match.TestedDocuments
import RecordFilter.Proofs.Record.Addresses
import RecordFilter.Proofs.Sql.TestedRows
/-!
# What plans select

A plan selects the records that meet its filter, whichever database it is made for. So a plan for
documents and one for rows select the same records.

## Main definitions

* `Condition.meets?`, `Filter.meets` — what a filter says of a record.
* `Condition.HasStoredValues` — conditions whose values databases keep.

## Main statements

* `Compiler.selects_document_eq`, `Compiler.selects_relational_eq` — the records that the plan of
  either kind selects.
-/
namespace RecordFilter

/-! ## What filters mean -/

/-- Whether all or some parts hold. -/
def Connective.holds : Connective → List Bool → Bool
  | .and, bs => bs.all id
  | .or, bs => bs.any id

/-- The values of a test are kept by databases; windows are bounded in years of four digits. -/
structure Test.HasStoredValues (t : Test) : Prop where
  scalars : ∀ s ∈ t.scalars, s.IsStored
  years : ∀ b ∈ t.bounds, 0 ≤ b.date.civil.year ∧ b.date.civil.year ≤ 9999

theorem Test.HasStoredValues.isStored {t : Test} (h : t.HasStoredValues)
    (hwhole : ∀ b ∈ t.bounds, b.IsWhole) : t.IsStored where
  scalars := h.scalars
  bounds b hb := ⟨(hwhole b hb).1, (hwhole b hb).2, h.years b hb⟩

namespace Condition

/-- The value that a condition is about. -/
def value? (r : Record) (c : Condition) : Option Value :=
  match c.extendedKey with
  | none => r.values.get? c.field
  | some key => (r.relatedValues c.field).get? key

/-- The values that the condition reads as are kept by databases. -/
def HasStoredValues (store : Store) (schema : Schema) (dates : DateContext) (c : Condition) :
    Prop :=
  ∀ a t, c.attribute? store schema = some a → c.test? dates a = some t → t.HasStoredValues

open Classical in
/-- Whether a record meets a condition, unless the condition asks nothing. -/
noncomputable def meets? (store : Store) (schema : Schema) (dates : DateContext)
    (same : Char → Char → Bool) (r : Record) (c : Condition) : Option Bool :=
  ((c.attribute? store schema).bind fun a => c.test? dates a).map fun t =>
    decide (t.Holds same (c.value? r))

/-- A record of its types holds a value of the attribute that the condition is about. -/
theorem allows_value? {store : Store} {schema : Schema} {r : Record} {c : Condition}
    {a : Attribute} (hr : r.IsTyped store schema) (ha : c.attribute? store schema = some a) :
    a.Allows (c.value? r) := by
  intro x hx
  unfold attribute? at ha
  unfold value? at hx
  split at ha
  · next hkey => exact hr.1 _ _ _ ha (by simpa [hkey] using hx)
  · next key hkey =>
    split at ha
    · next target reference hlookup =>
      obtain ⟨related, hrelated, hkeyed⟩ := Option.bind_eq_some_iff.1 ha
      simp only [hkey, Record.relatedValues] at hx
      cases hvalues : Entries.lookup? c.field r.related with
      | none => simp [hvalues, Values.get?] at hx
      | some values =>
        simp only [hvalues, Option.getD_some] at hx
        exact hr.2 _ _ _ _ _ hlookup hrelated (Entries.mem_of_lookup? hvalues) _ _ _ hkeyed hx
    · cases ha

end Condition

/-- Whether a record meets a filter; a filter that asks nothing is met by every record. -/
noncomputable def Filter.meets (store : Store) (schema : Schema) (dates : DateContext)
    (same : Char → Char → Bool) (r : Record) (filter : Filter) : Bool :=
  (filter.combine Connective.holds (Condition.meets? store schema dates same r)).getD true

/-! ## Plans of any kind -/

namespace Compiler

variable {P : Type} {c : Compiler P} {dates : DateContext} {schema : Schema} {filter : Filter}
  {same : Char → Char → Bool} {r : Record}

theorem outcomes_of_plan [ZoneSource] {p : Plan P} (hdates : c.dates = .ok dates)
    (h : c.plan schema filter = .ok p) :
    ∃ outcomes, filter.traverse (c.outcome dates schema) = .ok outcomes ∧
      p = c.planOf outcomes := by
  simp only [plan, hdates, Results.bind_eq_ok, Results.pure_eq_ok] at h
  obtain ⟨_, hd, outcomes, houtcomes, rfl⟩ := h
  cases hd
  exact ⟨outcomes, houtcomes, rfl⟩

/-- If the predicates of a target say what their tests mean, its plans select the records that meet
the filter. -/
theorem selects_eq_meets [ZoneSource] {p : Plan P} {holds : P → Bool}
    (hjoin : ∀ kind parts, holds (c.target.join kind parts) = kind.holds (parts.map holds))
    (hdates : c.dates = .ok dates) (hnow : c.now.IsWhole)
    (hstored : ∀ condition ∈ filter.toList, condition.HasStoredValues c.store schema dates)
    (hr : r.IsTyped c.store schema)
    (htest : ∀ condition found a t q, c.locate schema condition = .ok found →
      found.type = some a → a.Allows (condition.value? r) → t.Fits a → t.IsStored →
      c.target.ofTest a.isDateOnly found.field t = .ok q →
      (holds q = true ↔ t.Holds same (condition.value? r)))
    (h : c.plan schema filter = .ok p) :
    p.selects holds = filter.meets c.store schema dates same r := by
  obtain ⟨outcomes, houtcomes, rfl⟩ := outcomes_of_plan hdates h
  have hnow' : dates.now.IsWhole := by
    unfold Compiler.dates at hdates
    split at hdates <;> cases hdates
    exact hnow
  have hleaf : ∀ condition ∈ filter.toList, ∀ o, c.outcome dates schema condition = .ok o →
      o.predicate?.map holds = condition.meets? c.store schema dates same r := by
    intro condition hmem o ho
    obtain ⟨found, a, hfound, ha, ho⟩ := outcome_cases ho
    rcases ho with ⟨why, hnone, rfl⟩ | ⟨t, q, ht, hq, rfl⟩
    · simp [Condition.meets?, ha, hnone, Outcome.predicate?]
    · have hsaved := (hstored condition hmem a t ha ht).isStored
        (Condition.isWhole_of_test? hnow' ht)
      have hiff := htest condition found a t q hfound ((type_of_locate hfound).trans ha)
        (Condition.allows_value? hr ha) (Condition.fits_of_test? ht) hsaved hq
      simp [Condition.meets?, ha, ht, Outcome.predicate?, ← hiff]
  have hcombine := Tree.map_combine (g := holds) hjoin Outcome.predicate? outcomes
  rw [Tree.combine_of_traverse houtcomes hleaf] at hcombine
  rw [Filter.meets, ← hcombine, Plan.selects, planOf]
  cases outcomes.combine c.target.join Outcome.predicate? <;> rfl

/-! ## Documents and rows -/

variable {a : Attribute} {condition : Condition} {found : Located}

/-- The document of a record shows the value that a condition is about where it is looked for. -/
theorem isFoundAs_of_locate {c : Compiler Match} (htarget : c.target = .document)
    (hnames : r.IsAddressable c.store schema) (hfound : c.locate schema condition = .ok found)
    (ha : found.type = some a) :
    Value.IsFoundAs (condition.value? r) (r.document.at? found.field.path) := by
  rcases locate_cases hfound with ⟨hkey, rfl⟩ | ⟨key, target, reference, related, hkey, hlookup,
    hrelated, rfl⟩
  · have hne : condition.field ≠ "@expand" := by
      rintro heq
      simp [heq, hnames.noExpansion] at ha
    simpa [Condition.value?, hkey, htarget, Target.document, FieldRef.path] using
      Record.isFoundAs_own (hnames.names _ _ ha) hne
  · simpa [Condition.value?, hkey, htarget, Target.document, FieldRef.path] using
      Record.isFoundAs_related hnames.keepsExpansion (hnames.names _ _ hlookup)
        (hnames.relatedNames _ _ hrelated _ _ ha)

/-- The row of a record holds the value that a condition is about where it is looked for. -/
theorem row_of_locate {c : Compiler Clause} {d : Dialect} (htarget : c.target = .relational d)
    (hnames : r.IsAddressable c.store schema) (hfound : c.locate schema condition = .ok found) :
    r.row c.store schema found.field = Value.cell (condition.value? r) := by
  rcases locate_cases hfound with ⟨hkey, rfl⟩ | ⟨key, target, reference, related, hkey, hlookup,
    hrelated, rfl⟩
  · simpa [Condition.value?, hkey, htarget, Target.relational] using Record.row_own
  · simpa [Condition.value?, hkey, htarget, Target.relational] using
      Record.row_related hnames.relations (Entries.mem_of_lookup? hlookup) hrelated

/-- The plan for documents selects the documents of the records that meet the filter. -/
theorem selects_document_eq [ZoneSource] {c : Compiler Match} {p : Plan Match}
    (htarget : c.target = .document) (hdates : c.dates = .ok dates) (hnow : c.now.IsWhole)
    (hstored : ∀ condition ∈ filter.toList, condition.HasStoredValues c.store schema dates)
    (hr : r.IsTyped c.store schema) (hnames : r.IsAddressable c.store schema)
    (h : c.plan schema filter = .ok p) :
    p.selects (Match.selects same r.document) = filter.meets c.store schema dates same r := by
  refine selects_eq_meets ?_ hdates hnow hstored hr ?_ h
  · intro kind parts
    rw [htarget]
    cases kind with
    | and =>
      simp [Target.document, Match.join, Match.selects, Match.selectsEach_eq_all,
        Connective.holds, List.all_map]
    | or =>
      simp [Target.document, Match.join, Match.selects, Match.selectsSome_eq_any,
        Connective.holds, List.any_map]
  · intro condition found a t q hfound ha hallows hfits hsaved hq
    rw [htarget] at hq
    cases hq
    exact Match.selects_ofTest_iff (isFoundAs_of_locate htarget hnames hfound ha) hallows hfits
      hsaved

/-- The plan for rows selects the rows of the records that meet the filter, where the dialect has a
test that ignores letter case. -/
theorem selects_relational_eq [ZoneSource] {c : Compiler Clause} {d : Dialect} {p : Plan Clause}
    (htarget : c.target = .relational d) (hlike : d.hasILike = true)
    (hdates : c.dates = .ok dates) (hnow : c.now.IsWhole)
    (hstored : ∀ condition ∈ filter.toList, condition.HasStoredValues c.store schema dates)
    (hr : r.IsTyped c.store schema) (hnames : r.IsAddressable c.store schema)
    (h : c.plan schema filter = .ok p) :
    p.selects (Clause.selects same (r.row c.store schema)) =
      filter.meets c.store schema dates same r := by
  refine selects_eq_meets ?_ hdates hnow hstored hr ?_ h
  · intro kind parts
    rw [htarget, Bool.eq_iff_iff]
    cases kind with
    | and =>
      simp [Target.relational, Clause.join, Clause.selects, Clause.truth_and_iff,
        Connective.holds]
    | or =>
      simp [Target.relational, Clause.join, Clause.selects, Clause.truth_or_iff,
        Connective.holds]
  · intro condition found a t q hfound ha hallows hfits hsaved hq
    rw [htarget] at hq
    have hiff : q.truth same (r.row c.store schema) = some true ↔
        t.Holds (if d.hasILike then same else (· == ·)) (condition.value? r) :=
      Clause.truth_ofTest_iff (row_of_locate htarget hnames hfound) hallows hfits hsaved hq
    simpa [Clause.selects, hlike] using hiff

/-- A filter planned for documents and for rows selects the same records in both forms. -/
theorem document_selects_eq_relational_selects [ZoneSource] {store : Store} {now : Instant}
    {timezone : String} {settings : CalendarSettings} {d : Dialect} {p : Plan Match}
    {q : Plan Clause}
    (hp : (Compiler.mk .document store now timezone settings).plan schema filter = .ok p)
    (hq : (Compiler.mk (.relational d) store now timezone settings).plan schema filter = .ok q)
    (hlike : d.hasILike = true) (hnow : now.IsWhole)
    (hstored : ∀ zone, Zone.ofName? timezone = some zone → ∀ condition ∈ filter.toList,
      condition.HasStoredValues store schema ⟨now, zone, settings⟩)
    (hr : r.IsTyped store schema) (hnames : r.IsAddressable store schema) :
    p.selects (Match.selects same r.document) =
      q.selects (Clause.selects same (r.row store schema)) := by
  cases hzone : Zone.ofName? timezone with
  | none => simp [plan, dates, hzone, bind, Except.bind] at hp
  | some zone =>
    have hdates {P : Type} (target : Target P) :
        (Compiler.mk target store now timezone settings).dates = .ok ⟨now, zone, settings⟩ := by
      simp [dates, hzone]
    rw [selects_document_eq rfl (hdates .document) hnow (hstored zone hzone) hr hnames hp]
    rw [selects_relational_eq rfl hlike (hdates (.relational d)) hnow (hstored zone hzone) hr
      hnames hq]

/-! ### An example -/

/-- Accounts with a name, the time of their creation and an account above them. -/
def accounts : Schema where
  logicalName := "account"
  attributes :=
    [("name", .string), ("created", .date .datetime), ("parent", .lookup "account" .string)]
  idAttribute := "name"
  primaryAttribute := "name"

def accountStore : Store := ⟨[("account", accounts)]⟩

/-- Accounts created on a day, and those below another account than Acme. -/
def accountFilter : Filter :=
  .node .or
    [⟨"created", .date (.day .on), .string "2025-01-15", none⟩,
      ⟨"parent", .equality true, .string "Acme", some "name"⟩] []

def account : Record where
  values :=
    [("name", some (.scalar (.text "Acme"))),
      ("created", some (.scalar (.timestamp ⟨1736971200, 5000000⟩)))]
  related := [("parent", [("name", some (.scalar (.text "Zed")))])]

theorem attribute?_accounts {name : String} {a : Attribute}
    (h : accounts.attribute? name = some a) :
    (name = "name" ∧ a = .string) ∨ (name = "created" ∧ a = .date .datetime) ∨
      (name = "parent" ∧ a = .lookup "account" .string) := by
  simpa [accounts] using Entries.mem_of_lookup? h

theorem eq_accounts_of_get? {target : String} {related : Schema}
    (h : accountStore.get? target = some related) : related = accounts := by
  have hmem := Entries.mem_of_lookup? h
  simp only [accountStore, List.mem_singleton, Prod.mk.injEq] at hmem
  exact hmem.2

theorem isTyped_account : account.IsTyped accountStore accounts := by
  constructor
  · intro name a v ha hv
    rcases attribute?_accounts ha with ⟨rfl, rfl⟩ | ⟨rfl, rfl⟩ | ⟨rfl, rfl⟩
    · cases hv
      trivial
    · cases hv
      exact ⟨rfl, rfl, by decide, by decide⟩
    · cases hv
  · intro field target reference related values hfield hrelated hmem name a v ha hv
    obtain ⟨rfl, rfl⟩ : field = "parent" ∧ values = [("name", some (.scalar (.text "Zed")))] := by
      simpa [account] using hmem
    rw [eq_accounts_of_get? hrelated] at ha
    rcases attribute?_accounts ha with ⟨rfl, rfl⟩ | ⟨rfl, rfl⟩ | ⟨rfl, rfl⟩
    · cases hv
      trivial
    · cases hv
    · cases hv

theorem isAddressable_account : account.IsAddressable accountStore accounts := by
  have hplain : accounts.HasPlainNames := by
    intro name a ha
    rcases attribute?_accounts ha with ⟨rfl, -⟩ | ⟨rfl, -⟩ | ⟨rfl, -⟩ <;> decide
  refine ⟨hplain, fun target related h => eq_accounts_of_get? h ▸ hplain, ⟨?_, ?_⟩, rfl, rfl⟩
  · intro field target reference related hmem hrelated
    obtain ⟨rfl, -, -⟩ : field = "parent" ∧ target = "account" ∧ reference = .string := by
      simpa [accounts] using hmem
    rw [eq_accounts_of_get? hrelated]
    decide
  · intro field target reference related field' target' reference' related' hmem _ hmem' _ _
    have hparent {f t r} (h : (f, Attribute.lookup t r) ∈ accounts.attributes) : f = "parent" := by
      simpa [accounts] using And.left (by simpa [accounts] using h : f = "parent" ∧ _)
    rw [hparent hmem, hparent hmem']

theorem hasStoredValues_accountFilter {zone : Zone} (hzone : Zone.ofName? "UTC" = some zone) :
    ∀ condition ∈ accountFilter.toList,
      condition.HasStoredValues accountStore accounts ⟨⟨0, 0⟩, zone, .default⟩ := by
  intro condition hmem a t ha ht
  obtain rfl : Zone.utc = zone := Option.some.inj hzone
  obtain rfl | rfl := by simpa [accountFilter] using hmem
  · cases ha
    obtain rfl : Test.wholeDays (.between ⟨1736899200, 0⟩ ⟨1736985600, 0⟩) = t :=
      Option.some.inj ht
    refine ⟨by simp [Test.scalars], ?_⟩
    simp only [Test.bounds, Test.window?, Window.start?, Window.finish?]
    decide
  · cases ha
    obtain rfl : Test.sameText "Acme" true = t := Option.some.inj ht
    exact ⟨by simp [Test.scalars], by simp [Test.bounds, Test.window?]⟩

/-- The filter of accounts is planned in both ways, and the plans agree on the account. -/
theorem accountFilter_selects_account :
    ∃ p q, (Compiler.mk .document accountStore ⟨0, 0⟩ "UTC" .default).plan accounts accountFilter =
        .ok p ∧
      (Compiler.mk (.relational .postgres) accountStore ⟨0, 0⟩ "UTC" .default).plan accounts
        accountFilter = .ok q ∧
      p.selects (Match.selects (· == ·) account.document) =
        q.selects (Clause.selects (· == ·) (account.row accountStore accounts)) := by
  refine ⟨_, _, rfl, rfl, ?_⟩
  refine @document_selects_eq_relational_selects accounts accountFilter (· == ·) account _
    accountStore ⟨0, 0⟩ "UTC" .default .postgres _ _ rfl rfl rfl ⟨rfl, rfl⟩ ?_ isTyped_account
    isAddressable_account
  intro zone hzone
  exact hasStoredValues_accountFilter hzone

end Compiler
end RecordFilter
