import Mathlib.Data.List.Dedup
import Mathlib.Data.List.Induction
import RecordFilter.Proofs.Filter.TreeEdits
import RecordFilter.Proofs.Results
import RecordFilter.Schema.Store
/-!
# Runs of a schema store

A store is filled call by call. A call with a schema at fault changes nothing; any other call puts
its schema in the place of the one of that name. So a store is known from the calls: under each name
stands the last valid schema of that name.

## Main definitions

* `Schema.IsWellFormed` — what a valid schema is, rule by rule.
* `Store.after`, `Store.run` — the store after a call, and after several.
* `Store.Reflects` — what a store holds, said by the calls.

## Main statements

* `Schema.faultIn_eq_none_iff` — validity does not depend on the order in which attributes are gone
  through.
* `Store.Reflects.after`, `Store.reflects_run` — one call, and a run from the empty store.
* `Store.ofSchemas_eq_ok_iff`, `Store.ofSchemas_eq_error_iff` — schemas that are stored together.
* `Store.run_reflects_calls` — runs, and documents loaded as a whole.
-/
namespace RecordFilter

/-! ## Valid schemas -/

namespace Schema

variable {s : Schema} {name : String}

/-- Whether all options of a choice are texts, or all are numbers. -/
def HasUniformOptions (options : List ChoiceOption) : Prop :=
  (∀ o ∈ options, o.value.isString = true) ∨ ∀ o ∈ options, o.value.isNumber = true

theorem areUniform_iff {options : List ChoiceOption} :
    areUniform options = true ↔ HasUniformOptions options := by
  simp [areUniform, HasUniformOptions]

/-- A lookup names its target, and the options of a choice are of one kind. -/
def IsWellFormedAttribute : Attribute → Prop
  | .lookup target _ => isBlankText target = false
  | .choice options => HasUniformOptions options
  | .choices options => HasUniformOptions options
  | _ => True

theorem attributeFault?_eq_none_iff {schema : String} {a : Attribute} :
    attributeFault? schema name a = none ↔ IsWellFormedAttribute a := by
  cases a <;> simp [attributeFault?, IsWellFormedAttribute, areUniform_iff]

theorem roleFault?_eq_none_iff {role : String} :
    s.roleFault? role name = none ↔ (s.attribute? name).isSome = true := by
  simp [roleFault?, Option.isSome_iff_ne_none]

/-- The rules for schemas: a name, the attributes that identify and name a record, and attributes
that keep the rules for them. -/
structure IsWellFormed (s : Schema) : Prop where
  named : isBlankText s.logicalName = false
  id : (s.attribute? s.idAttribute).isSome = true
  primary : (s.attribute? s.primaryAttribute).isSome = true
  attributes : ∀ entry ∈ s.attributes, IsWellFormedAttribute entry.2

/-- In whichever order the attributes are gone through, there is a fault exactly if a rule is
broken; the order only decides which one is reported. -/
theorem faultIn_eq_none_iff {order : List (String × Attribute)} (h : order.Perm s.attributes) :
    s.faultIn order = none ↔ s.IsWellFormed := by
  have hfault : s.faultIn order = none ↔ isBlankText s.logicalName = false ∧
      (s.attribute? s.idAttribute).isSome = true ∧
      (s.attribute? s.primaryAttribute).isSome = true ∧
      ∀ entry ∈ order, IsWellFormedAttribute entry.2 := by
    simp only [faultIn, ite_eq_iff, reduceCtorEq, and_false, false_or, Bool.not_eq_true,
      Option.or_eq_none_iff, roleFault?_eq_none_iff, List.findSome?_eq_none_iff,
      attributeFault?_eq_none_iff]
  simp only [hfault, h.mem_iff]
  exact ⟨fun ⟨hname, hid, hprimary, hattributes⟩ => ⟨hname, hid, hprimary, hattributes⟩,
    fun h => ⟨h.named, h.id, h.primary, h.attributes⟩⟩

theorem isValid_iff : s.IsValid ↔ s.IsWellFormed := faultIn_eq_none_iff (.refl _)

theorem check_eq_ok_iff {u : Unit} : s.check = .ok u ↔ s.IsValid := by
  unfold check IsValid
  split <;> simp_all

theorem check_eq_error_iff {fault : SchemaFault} :
    s.check = .error fault ↔ s.fault? = some fault := by
  unfold check
  split <;> simp_all

end Schema

/-! ## Runs -/

namespace Store

variable {s s' : Store} {calls schemas : List Schema} {schema : Schema} {name : String}

theorem register_of_valid (h : schema.IsValid) : s.register schema = (.ok (), s.put schema) := by
  have hcheck : schema.check = .ok () := Schema.check_eq_ok_iff.2 h
  rw [register, hcheck]

/-- A call that fails leaves the store as it was. -/
theorem register_of_fault {fault : SchemaFault} (h : schema.fault? = some fault) :
    s.register schema = (.error fault, s) := by
  rw [register, Schema.check_eq_error_iff.2 h]

theorem insert_eq_ok_iff : s.insert schema = .ok s' ↔ schema.IsValid ∧ s' = s.put schema := by
  cases hfault : schema.fault? with
  | none =>
    have hvalid : schema.IsValid := hfault
    simp [insert, register_of_valid hvalid, hvalid, eq_comm]
  | some fault => simp [insert, register_of_fault hfault, Schema.IsValid, hfault]

theorem insert_eq_error_iff {fault : SchemaFault} :
    s.insert schema = .error fault ↔ schema.fault? = some fault := by
  cases hfault : schema.fault? with
  | none => simp [insert, register_of_valid hfault]
  | some found => simp [insert, register_of_fault hfault]

/-- The store after a call, whether it succeeds or fails. -/
def after (s : Store) (schema : Schema) : Store := (s.register schema).2

/-- The store after calls made one after the other. -/
def run (s : Store) (calls : List Schema) : Store := calls.foldl after s

theorem after_of_valid (h : schema.IsValid) : s.after schema = s.put schema := by
  rw [after, register_of_valid h]

theorem after_of_invalid (h : ¬ schema.IsValid) : s.after schema = s := by
  obtain ⟨fault, hfault⟩ := Option.ne_none_iff_exists'.1 h
  rw [after, register_of_fault hfault]

/-- The calls that succeed. -/
def accepted (calls : List Schema) : List Schema := calls.filter fun schema => schema.IsValid

/-- Under each name stands the last schema of that name whose call succeeded, and each name stands
once. -/
structure Reflects (s : Store) (calls : List Schema) : Prop where
  get?_eq : ∀ name, s.get? name =
    ((accepted calls).filter fun schema => schema.logicalName = name).getLast?
  nodup : (s.entries.map Prod.fst).Nodup
  names : ∀ name, name ∈ s.entries.map Prod.fst ↔ name ∈ (accepted calls).map Schema.logicalName
  entries : ∀ name schema, (name, schema) ∈ s.entries →
    schema.logicalName = name ∧ schema.IsValid

theorem reflects_empty : empty.Reflects [] where
  get?_eq _ := rfl
  nodup := List.nodup_nil
  names _ := by simp [empty, accepted]
  entries _ _ h := by cases h

theorem accepted_append_of_valid (h : schema.IsValid) :
    accepted (calls ++ [schema]) = accepted calls ++ [schema] := by
  simp [accepted, h]

theorem accepted_append_of_invalid (h : ¬ schema.IsValid) :
    accepted (calls ++ [schema]) = accepted calls := by
  simp [accepted, h]

theorem Reflects.put (h : s.Reflects calls) (hvalid : schema.IsValid) :
    (s.put schema).Reflects (calls ++ [schema]) where
  get?_eq name := by
    rw [get?_put, accepted_append_of_valid hvalid, List.filter_append, h.get?_eq]
    by_cases hname : schema.logicalName = name <;> simp [hname]
  nodup := Entries.nodup_put h.nodup
  names name := by
    rw [Store.put, Entries.map_fst_put, accepted_append_of_valid hvalid]
    simp only [List.map_append, List.mem_append, List.map_singleton, List.mem_singleton, ← h.names]
    split
    · next hold =>
      constructor
      · exact Or.inl
      · rintro (hname | rfl)
        · exact hname
        · exact hold
    · simp
  entries name found hmem := by
    rcases Entries.mem_or_eq_of_mem_put hmem with hold | hnew
    · exact h.entries name found hold
    · cases hnew
      exact ⟨rfl, hvalid⟩

theorem Reflects.after (h : s.Reflects calls) (schema : Schema) :
    (s.after schema).Reflects (calls ++ [schema]) := by
  by_cases hvalid : schema.IsValid
  · rw [after_of_valid hvalid]
    exact h.put hvalid
  · rw [after_of_invalid hvalid]
    have haccepted : accepted (calls ++ [schema]) = accepted calls :=
      accepted_append_of_invalid hvalid
    exact ⟨haccepted ▸ h.get?_eq, h.nodup, haccepted ▸ h.names, h.entries⟩

theorem reflects_run (calls : List Schema) : (empty.run calls).Reflects calls := by
  induction calls using List.reverseRecOn with
  | nil => exact reflects_empty
  | append_singleton calls schema ih =>
    rw [run, List.foldl_append]
    exact ih.after schema

/-- A store has as many entries as there are names of schemas whose calls succeeded. -/
theorem Reflects.size_eq (h : s.Reflects calls) :
    s.size = ((accepted calls).map Schema.logicalName).dedup.length := by
  have hperm : (s.entries.map Prod.fst).Perm ((accepted calls).map Schema.logicalName).dedup := by
    rw [List.perm_ext_iff_of_nodup h.nodup (List.nodup_dedup _)]
    intro name
    rw [List.mem_dedup, h.names]
  rw [← hperm.length_eq, List.length_map, size]

/-! ## Schemas inserted together -/

/-- Inserting schemas together is checking them one after the other, and then a run. -/
theorem insertAll_eq (s : Store) (schemas : List Schema) :
    s.insertAll schemas = (Tree.traverseList Schema.check schemas).map fun _ => s.run schemas := by
  induction schemas generalizing s with
  | nil => rfl
  | cons schema rest ih =>
    cases hfault : schema.fault? with
    | none =>
      have hinsert : s.insert schema = .ok (s.after schema) :=
        insert_eq_ok_iff.2 ⟨hfault, after_of_valid hfault⟩
      have hcheck : schema.check = .ok () := Schema.check_eq_ok_iff.2 hfault
      simp only [insertAll, hinsert, bind, Except.bind, ih, Tree.traverseList, hcheck]
      cases Tree.traverseList Schema.check rest <;> rfl
    | some fault =>
      simp only [insertAll, insert_eq_error_iff.2 hfault, bind, Except.bind, Tree.traverseList,
        Schema.check_eq_error_iff.2 hfault, Except.map]

/-- Schemas are stored together if every one of them is valid, and only then. -/
theorem ofSchemas_eq_ok_iff :
    ofSchemas schemas = .ok s ↔ (∀ schema ∈ schemas, schema.IsValid) ∧ s = empty.run schemas := by
  have hchecked : (∃ checked, Tree.traverseList Schema.check schemas = .ok checked) ↔
      ∀ schema ∈ schemas, schema.IsValid := by
    simp [Tree.exists_traverseList_iff, Schema.check_eq_ok_iff]
  rw [ofSchemas, insertAll_eq, Results.exceptMap_eq_ok, ← hchecked]
  grind

/-- The first schema at fault refuses them all. -/
theorem ofSchemas_eq_error_iff {fault : SchemaFault} :
    ofSchemas schemas = .error fault ↔ ∃ before first after, schemas = before ++ first :: after ∧
      (∀ schema ∈ before, schema.IsValid) ∧ first.fault? = some fault := by
  have hrefused : ofSchemas schemas = .error fault ↔
      Tree.traverseList Schema.check schemas = .error fault := by
    rw [ofSchemas, insertAll_eq]
    cases Tree.traverseList Schema.check schemas <;> simp [Except.map]
  rw [hrefused, Tree.traverseList_eq_error_iff]
  simp [Schema.check_eq_ok_iff, Schema.check_eq_error_iff]

/-- After any calls, of which some may have failed, the last valid schema of a name is found under
it; there are as many entries as names of valid schemas, each a valid schema under its own name; a
call succeeds exactly if its schema is valid and otherwise changes nothing. The schemas of a
document are stored as by calls in their order if all of them are valid; otherwise the first one at
fault, or the document if it cannot be read, refuses them all. -/
theorem run_reflects_calls (calls : List Schema) :
    (∀ name, (empty.run calls).get? name =
      ((accepted calls).filter fun schema => schema.logicalName = name).getLast?) ∧
    (empty.run calls).size = ((accepted calls).map Schema.logicalName).dedup.length ∧
    (∀ name schema, (name, schema) ∈ (empty.run calls).entries →
      schema.logicalName = name ∧ schema.IsValid) ∧
    (∀ schema, (∃ s, (empty.run calls).insert schema = .ok s) ↔ schema.IsValid) ∧
    (∀ schema fault, (empty.run calls).insert schema = .error fault →
      empty.run (calls ++ [schema]) = empty.run calls) ∧
    ∀ text,
      (∀ s, ofText text = .ok s ↔
        ∃ schemas, Document.read schemasOfDocument text = .ok schemas ∧
          (∀ schema ∈ schemas, schema.IsValid) ∧ s = empty.run schemas) ∧
      ∀ fault, ofText text = .error fault ↔
        (∃ e, Document.read schemasOfDocument text = .error e ∧ fault = .document e) ∨
        ∃ before first after,
          Document.read schemasOfDocument text = .ok (before ++ first :: after) ∧
            (∀ schema ∈ before, schema.IsValid) ∧ first.fault? = some fault := by
  have hrun := reflects_run calls
  refine ⟨hrun.get?_eq, hrun.size_eq, hrun.entries, fun schema => ?_, fun schema fault h => ?_,
    fun text => ?_⟩
  · simp [insert_eq_ok_iff]
  · have hinvalid : ¬ schema.IsValid := by
      simp [Schema.IsValid, insert_eq_error_iff.1 h]
    rw [run, List.foldl_append]
    exact after_of_invalid hinvalid
  · unfold ofText
    cases Document.read schemasOfDocument text with
    | error e => simp [eq_comm]
    | ok schemas => simp [ofSchemas_eq_ok_iff, ofSchemas_eq_error_iff]

/-! ### Notes -/

def draftNote : Schema := ⟨"note", [("id", .string)], "id", "id"⟩

def nameless : Schema := ⟨" ", [("id", .string)], "id", "id"⟩

def finalNote : Schema := ⟨"note", [("id", .string), ("subject", .string)], "id", "subject"⟩

/-- A schema is replaced by a later one of its name; one without a name is refused. -/
theorem finalNote_replaces_draftNote :
    (empty.run [draftNote, nameless, finalNote]).get? "note" = some finalNote ∧
      (empty.run [draftNote, nameless, finalNote]).size = 1 ∧
      (("note", finalNote) ∈ (empty.run [draftNote, nameless, finalNote]).entries ∧
        finalNote.IsValid) ∧
      (empty.run [draftNote, nameless, finalNote]).insert nameless = .error .emptyName ∧
        empty.run ([draftNote, nameless, finalNote] ++ [nameless]) =
          empty.run [draftNote, nameless, finalNote] := by
  obtain ⟨hget, hsize, hentries, -, hfailed, -⟩ :=
    run_reflects_calls [draftNote, nameless, finalNote]
  have hmem : ("note", finalNote) ∈ (empty.run [draftNote, nameless, finalNote]).entries :=
    List.mem_cons_self
  exact ⟨(hget "note").trans rfl, hsize.trans (by decide), ⟨hmem, (hentries _ _ hmem).2⟩, rfl,
    hfailed nameless .emptyName rfl⟩

end Store
end RecordFilter
