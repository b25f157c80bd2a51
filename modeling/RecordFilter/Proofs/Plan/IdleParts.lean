import RecordFilter.Calendar.ZoneTable
import RecordFilter.Proofs.Plan.Assembly
/-!
# Parts of a filter that do not matter

A filter is refused for the fault of its first condition at fault, whatever the connectives. Where
a condition or a part of a filter asks nothing, it may be deleted, and a part may be wrapped in a
filter of its own, without any effect on the plan.

## Main definitions

* `Compiler.FirstFault` — the fault of the first condition that is at fault by itself.
* `Compiler.AsksNothing` — filters with a plan and without a predicate.

## Main statements

* `Compiler.plan_of_conditions` — the plan of a filter by those of its conditions.
-/
namespace RecordFilter.Compiler

variable {P : Type} {c : Compiler P} {dates : DateContext} {schema : Schema}
  {filter : Filter} {condition : Condition} {e : FilterError}

/-- The first condition that has no plan by itself, in the order of visiting, has this fault. -/
def FirstFault [ZoneSource] (c : Compiler P) (schema : Schema) (filter : Filter)
    (e : FilterError) : Prop :=
  ∃ before condition after, filter.toList = before ++ condition :: after ∧
    (∀ earlier ∈ before, ∃ p, c.plan schema (.single earlier) = .ok p) ∧
    c.plan schema (.single condition) = .error e

/-- The filter is not refused, and it selects every record. -/
def AsksNothing [ZoneSource] (c : Compiler P) (schema : Schema) (filter : Filter) : Prop :=
  ∃ p, c.plan schema filter = .ok p ∧ p.predicate = none

theorem plan_eq_error_iff [ZoneSource] (hdates : c.dates = .ok dates) :
    c.plan schema filter = .error e ↔
      Tree.traverseList (c.outcome dates schema) filter.toList = .error e := by
  rw [plan_eq hdates, Tree.gather]
  cases Tree.traverseList (c.outcome dates schema) filter.toList <;> simp [Except.map]

theorem plan_single_eq_error_iff [ZoneSource] (hdates : c.dates = .ok dates) :
    c.plan schema (.single condition) = .error e ↔ c.outcome dates schema condition = .error e := by
  rw [plan_eq_error_iff hdates, Tree.toList_single, Tree.traverseList]
  cases c.outcome dates schema condition <;> simp [Tree.traverseList]

/-- A filter has a plan if none of its conditions is refused. -/
theorem exists_plan_iff [ZoneSource] (hdates : c.dates = .ok dates) :
    (∃ p, c.plan schema filter = .ok p) ↔
      ∀ condition ∈ filter.toList, ∃ o, c.outcome dates schema condition = .ok o := by
  rw [← Tree.exists_traverseList_iff, plan_eq hdates, Tree.gather]
  cases Tree.traverseList (c.outcome dates schema) filter.toList <;> simp [Except.map]

/-- A filter asks nothing if none of its conditions does. -/
theorem asksNothing_iff [ZoneSource] (hdates : c.dates = .ok dates) :
    c.AsksNothing schema filter ↔
      ∀ condition ∈ filter.toList,
        ∃ o, c.outcome dates schema condition = .ok o ∧ o.predicate? = none := by
  have hcombine : filter.combine c.target.join (c.predicate? dates schema) = none ↔
      ∀ condition ∈ filter.toList, c.predicate? dates schema condition = none := by
    rw [← Option.not_isSome_iff_eq_none, Tree.isSome_combine]
    simp
  have hpredicate : ∀ p, c.plan schema filter = .ok p →
      p.predicate = filter.combine c.target.join (c.predicate? dates schema) := by
    intro p hp
    rw [plan_eq hdates, Results.exceptMap_eq_ok] at hp
    obtain ⟨relations, -, rfl⟩ := hp
    rfl
  constructor
  · rintro ⟨p, hp, hnone⟩ condition hmem
    obtain ⟨o, ho⟩ := (exists_plan_iff hdates).1 ⟨p, hp⟩ condition hmem
    have hpart := hcombine.1 (hpredicate p hp ▸ hnone) condition hmem
    exact ⟨o, ho, by simpa only [predicate?, ho] using hpart⟩
  · intro h
    obtain ⟨p, hp⟩ :=
      (exists_plan_iff hdates).2 fun condition hmem => (h condition hmem).imp fun _ ho => ho.1
    refine ⟨p, hp, (hpredicate p hp).trans (hcombine.2 fun condition hmem => ?_)⟩
    obtain ⟨o, ho, hnone⟩ := h condition hmem
    simpa only [predicate?, ho] using hnone

/-- Nothing is joined and nothing is listed where a filter asks nothing. -/
theorem AsksNothing.contributes [ZoneSource] (hdates : c.dates = .ok dates)
    (h : c.AsksNothing schema filter) :
    filter.combine c.target.join (c.predicate? dates schema) = none ∧
      Tree.gather (c.outcome dates schema) Outcome.relation? filter.toList = .ok [] := by
  have hidle := (asksNothing_iff hdates).1 h
  obtain ⟨p, hp, hnone⟩ := h
  rw [plan_eq hdates, Results.exceptMap_eq_ok] at hp
  obtain ⟨relations, hgather, rfl⟩ := hp
  obtain ⟨outcomes, houtcomes, rfl⟩ := Results.exceptMap_eq_ok.1 hgather
  have hlisted : outcomes.filterMap Outcome.relation? = filter.toList.filterMap fun _ => none := by
    refine Tree.filterMap_of_traverseList houtcomes fun condition hmem o ho => ?_
    obtain ⟨o', ho', hdropped⟩ := hidle condition hmem
    cases ho.symm.trans ho'
    exact Outcome.relation?_eq_none hdropped
  exact ⟨hnone, by simp [hgather, hlisted]⟩

/-- A filter is refused for the fault of its first condition at fault, and for nothing else; it may
be edited where it asks nothing; and it asks nothing exactly if none of its conditions does. -/
theorem plan_of_conditions [ZoneSource] (c : Compiler P) {zone : Zone}
    (hzone : Zone.ofName? c.timezone = some zone) (schema : Schema) (filter : Filter) :
    (∀ e, c.plan schema filter = .error e ↔ c.FirstFault schema filter e) ∧
      ((∃ p, c.plan schema filter = .ok p) ↔
        ∀ condition ∈ filter.toList, ∃ p, c.plan schema (.single condition) = .ok p) ∧
      (∀ edited, Relation.ReflTransGen (Tree.Edit (c.AsksNothing schema)) filter edited →
        c.plan schema edited = c.plan schema filter) ∧
      (c.AsksNothing schema filter ↔
        ∀ condition ∈ filter.toList, c.AsksNothing schema (.single condition)) := by
  obtain ⟨dates, hdates⟩ : ∃ dates, c.dates = .ok dates := ⟨_, dates_of_ofName? hzone⟩
  refine ⟨fun e => ?_, ?_, fun edited hedited => ?_, ?_⟩
  · rw [plan_eq_error_iff hdates, Tree.traverseList_eq_error_iff]
    simp only [FirstFault, plan_single_eq_error_iff hdates, exists_plan_iff hdates,
      Tree.toList_single, List.mem_singleton, forall_eq]
  · simp only [exists_plan_iff hdates, Tree.toList_single, List.mem_singleton, forall_eq]
  · have hpredicate : edited.combine c.target.join (c.predicate? dates schema) =
        filter.combine c.target.join (c.predicate? dates schema) :=
      Tree.combine_of_edits (fun _ ht => (AsksNothing.contributes hdates ht).1) hedited
    have hrelations := Tree.gather_of_edits
      (fun _ ht => (AsksNothing.contributes hdates ht).2) hedited
    rw [plan_eq hdates, plan_eq hdates, hpredicate, hrelations]
  · simp only [asksNothing_iff hdates, Tree.toList_single, List.mem_singleton, forall_eq]

/-! ### Books -/

def books : Schema where
  logicalName := "book"
  attributes := [("title", .string)]
  idAttribute := "title"
  primaryAttribute := "title"

def bookCompiler : Compiler Match := ⟨.document, ⟨[]⟩, ⟨0, 0⟩, "UTC", .default⟩

def hasTitle : Condition := ⟨"title", .nullity true, .null, none⟩

/-- No operator has this key. -/
def rhymes : Condition := ⟨"title", .unknown "rhymes-with", .string "orange", none⟩

/-- Books have no attribute of this name. -/
def hasNo (field : String) : Condition := ⟨field, .nullity true, .null, none⟩

/-- Books are selected by their title behind parts that ask nothing, and a filter is refused for the
first attribute that books lack. -/
theorem rhymes_does_not_matter :
    Zone.ofName? bookCompiler.timezone = some .utc ∧
      bookCompiler.plan books (.node .and [] [.node .or [hasTitle] []]) =
        bookCompiler.plan books (.node .or [rhymes, hasTitle] [.node .and [rhymes] []]) ∧
      bookCompiler.plan books (.node .or [rhymes] [.node .and [hasNo "pages", hasNo "year"] []]) =
        .error (.attributeNotFound "pages") := by
  have hzone : Zone.ofName? bookCompiler.timezone = some .utc := rfl
  have hidle : bookCompiler.AsksNothing books (.single rhymes) := ⟨_, rfl, rfl⟩
  refine ⟨hzone, ?_, ?_⟩
  · refine (plan_of_conditions bookCompiler hzone books _).2.2.1 _ ?_
    have hleaf := Tree.Edit.dropLeaf hidle .or [] [hasTitle] [.single rhymes]
    have hchild := Tree.Edit.dropChild hidle .or [hasTitle] [] []
    exact ((Relation.ReflTransGen.single hleaf).tail hchild).tail (.wrap .and _)
  · refine ((plan_of_conditions bookCompiler hzone books _).1 _).2 ?_
    exact ⟨[rhymes], hasNo "pages", [hasNo "year"], rfl, by simpa using ⟨_, rfl⟩, rfl⟩

end RecordFilter.Compiler
