import RecordFilter.Filter.Limits
import RecordFilter.Proofs.Filter.OperatorKeys
import RecordFilter.Proofs.Json.SpelledValues
import RecordFilter.Proofs.Results
/-!
# Filters written and read

A filter that has been read is written as a value that is read as the same filter. In whatever form
it came, as objects or as arrays, with lists and kinds that were left out, with keys that name no
operator: what was read of it is all that is written. Two things are needed of a condition for this,
and reading provides both: its operator is the one of its key, and its value repeats no name.

## Main definitions

* `Condition.ReadsBack` — conditions that are read as they are written.

## Main statements

* `Condition.readsBack_of_ofDocument` — conditions that have been read.
* `Filter.ofDocument_toJson` — a filter of such conditions.
* `Filter.reads_back` — filters that have been read.
-/
namespace RecordFilter

/-! ## Members and items -/

namespace Document

variable {σ α : Type}

/-- What every step over the members of a record keeps, all of them keep. -/
theorem foldMembers_induction {step : σ → String × Document → Except DocumentError σ}
    {good : σ → Prop} (hstep : ∀ s m s', good s → step s m = .ok s' → good s') {s s' : σ}
    {members : List (Option String × Document)} (hs : good s)
    (h : foldMembers step s members = .ok s') : good s' := by
  induction members generalizing s with
  | nil =>
    cases h
    exact hs
  | cons m rest ih =>
    obtain ⟨name, d⟩ := m
    cases name with
    | none => cases h
    | some name =>
      simp only [foldMembers] at h
      split at h
      · cases h
      · next s₁ hs₁ => exact ih (hstep _ _ _ hs hs₁) h

theorem fill_eq_ok {name : String} {slot slot' : Option α} {value : Except DocumentError α}
    (h : fill name slot value = .ok slot') : ∃ a, value = .ok a ∧ slot' = some a := by
  unfold fill at h
  split at h
  · cases h
  · obtain ⟨a, ha, rfl⟩ := Results.exceptMap_eq_ok.1 h
    exact ⟨a, ha, rfl⟩

/-- What each item is read as, all of them are. -/
theorem forall_readItems {read : Document → Except DocumentError α} {good : α → Prop}
    (hread : ∀ d a, read d = .ok a → good a) {ds : List Document} {as : List α}
    (h : readItems read ds = .ok as) : ∀ a ∈ as, good a := by
  induction ds generalizing as with
  | nil =>
    cases h
    simp
  | cons d rest ih =>
    simp only [readItems] at h
    split at h
    · cases h
    · next a ha =>
      obtain ⟨as, has, rfl⟩ := Results.exceptMap_eq_ok.1 h
      exact List.forall_mem_cons.2 ⟨hread d a ha, ih has⟩

theorem readItems_itemDocuments {read : Document → Except DocumentError α} {write : α → Json}
    {as : List α} (h : ∀ a ∈ as, read (write a).toDocument = .ok a) :
    readItems read (Json.itemDocuments (as.map write)) = .ok as := by
  induction as with
  | nil => rfl
  | cons a rest ih =>
    rw [List.forall_mem_cons] at h
    simp only [List.map_cons, Json.itemDocuments, readItems, h.1, ih h.2, Except.map]

theorem first_eq_ok {read : Document → Except DocumentError α} {ds rest : List Document} {a : α}
    (h : first read ds = .ok (a, rest)) : ∃ d, read d = .ok a := by
  unfold first at h
  split at h
  · cases h
  · next d _ =>
    obtain ⟨a', ha, heq⟩ := Results.exceptMap_eq_ok.1 h
    cases heq
    exact ⟨d, ha⟩

theorem firstD_eq_ok {read : Document → Except DocumentError α} {absent a : α}
    {ds rest : List Document} (h : firstD read absent ds = .ok (a, rest)) :
    a = absent ∨ ∃ d, read d = .ok a := by
  unfold firstD at h
  split at h
  · cases h
    exact Or.inl rfl
  · next d _ =>
    obtain ⟨a', ha, heq⟩ := Results.exceptMap_eq_ok.1 h
    cases heq
    exact Or.inr ⟨d, ha⟩

theorem finish_eq_ok {a b : α} {ds : List Document} (h : finish a ds = .ok b) : a = b := by
  unfold finish at h
  split at h
  · exact Except.ok.inj h
  · cases h

theorem toValue_eq_ok {d : Document} {v : Json} (h : d.toValue = .ok v) :
    v.toDocument.toJson? = some v := by
  unfold toValue at h
  split at h
  · next hv =>
    cases h
    exact Json.toJson?_toDocument hv
  · cases h

end Document

/-! ## Conditions -/

namespace Condition

variable {c : Condition} {d : Document}

/-- The condition is read as it is written. -/
def ReadsBack (c : Condition) : Prop := ofDocument c.toJson.toDocument = .ok c

theorem readsBack_of (hoperator : Operator.ofKey c.operator.key = c.operator)
    (hvalue : c.value.toDocument.toJson? = some c.value) : c.ReadsBack := by
  obtain ⟨field, operator, value, extendedKey⟩ := c
  dsimp only at hoperator hvalue
  cases extendedKey <;>
    simp [ReadsBack, ofDocument, toJson, Json.toDocument, Json.memberDocuments,
      Document.foldMembers, Draft.add, Draft.finish, Document.fill, Document.require,
      Document.toText, Document.toValue, Document.toOption, readOperator, readKey, hoperator,
      hvalue, Except.map, bind, Except.bind, pure, Except.pure]

/-- An operator that has been read is the one of its key. -/
theorem ofKey_key_of_readOperator {o : Operator} (h : readOperator d = .ok o) :
    Operator.ofKey o.key = o := by
  obtain ⟨s, -, rfl⟩ := Results.exceptMap_eq_ok.1 h
  rw [Operator.key_ofKey]

/-- What has been met of a condition is written without loss. -/
structure Draft.IsLossless (draft : Draft) : Prop where
  operator : ∀ o ∈ draft.operator, Operator.ofKey o.key = o
  value : ∀ v ∈ draft.value, v.toDocument.toJson? = some v

theorem Draft.IsLossless.add {draft draft' : Draft} {m : String × Document}
    (hdraft : draft.IsLossless) (h : draft.add m = .ok draft') : draft'.IsLossless := by
  unfold Draft.add at h
  split at h
  · obtain ⟨slot, hslot, h⟩ := Results.bind_eq_ok.1 h
    cases h
    exact ⟨hdraft.operator, hdraft.value⟩
  · obtain ⟨slot, hslot, h⟩ := Results.bind_eq_ok.1 h
    obtain ⟨o, ho, rfl⟩ := Document.fill_eq_ok hslot
    cases h
    refine ⟨?_, hdraft.value⟩
    rintro _ ⟨⟩
    exact ofKey_key_of_readOperator ho
  · obtain ⟨slot, hslot, h⟩ := Results.bind_eq_ok.1 h
    obtain ⟨v, hv, rfl⟩ := Document.fill_eq_ok hslot
    cases h
    refine ⟨hdraft.operator, ?_⟩
    rintro _ ⟨⟩
    exact Document.toValue_eq_ok hv
  · obtain ⟨slot, hslot, h⟩ := Results.bind_eq_ok.1 h
    cases h
    exact ⟨hdraft.operator, hdraft.value⟩
  · cases h
    exact hdraft

theorem Draft.IsLossless.finish {draft : Draft} (hdraft : draft.IsLossless)
    (h : draft.finish = .ok c) : c.ReadsBack := by
  simp only [Draft.finish, Results.bind_eq_ok] at h
  obtain ⟨field, -, operator, hoperator, h⟩ := h
  cases h
  refine readsBack_of (hdraft.operator operator ?_) ?_
  · unfold Document.require at hoperator
    split at hoperator <;> simp_all
  · cases hvalue : draft.value with
    | none => rfl
    | some v => exact hdraft.value v hvalue

/-- Conditions that have been read, from an object or from an array, are read as they are
written. -/
theorem readsBack_of_ofDocument (h : ofDocument d = .ok c) : c.ReadsBack := by
  unfold ofDocument at h
  split at h
  · obtain ⟨draft, hdraft, h⟩ := Results.bind_eq_ok.1 h
    have hempty : Draft.IsLossless {} := ⟨by simp, by simp⟩
    exact (Document.foldMembers_induction (fun _ _ _ hs hstep => hs.add hstep) hempty
      hdraft).finish h
  · simp only [Results.bind_eq_ok, Prod.exists] at h
    obtain ⟨field, _, -, operator, _, hoperator, value, _, hvalue, extendedKey, _, -, h⟩ := h
    obtain rfl := Document.finish_eq_ok h
    obtain ⟨d, hd⟩ := Document.first_eq_ok hoperator
    refine readsBack_of (ofKey_key_of_readOperator hd) ?_
    rcases Document.firstD_eq_ok hvalue with rfl | ⟨d', hd'⟩
    · rfl
    · exact Document.toValue_eq_ok hd'
  · cases h

end Condition

/-! ## Filters -/

theorem Connective.ofDocument_key (kind : Connective) :
    Connective.ofDocument (.string kind.key) = .ok kind := by
  cases kind <;> rfl

namespace Filter

open RecordFilter.Tree (listOfAll)

/-! ### Reading what is written -/

theorem readConditions_toJson {conditions : List Condition} (h : ∀ c ∈ conditions, c.ReadsBack) :
    readConditions (Json.toDocument (.array (conditions.map Condition.toJson))) =
      .ok conditions := by
  rw [Json.toDocument, readConditions, Document.toList]
  exact Document.readItems_itemDocuments h

/-- Lists that are empty are left out, and read as empty. -/
theorem ofDocument_toJson_node {kind : Connective} {conditions : List Condition}
    {filters : List Filter} (hconditions : ∀ c ∈ conditions, c.ReadsBack)
    (hfilters : readAll (Json.itemDocuments (toJsonAll filters)) = .ok filters) :
    ofDocument (toJson (.node kind conditions filters)).toDocument =
      .ok (.node kind conditions filters) := by
  have hkind := Connective.ofDocument_key kind
  have hconditions := readConditions_toJson hconditions
  cases conditions <;> cases filters <;>
    simp_all [toJson, Json.toDocument, Json.memberDocuments, ofDocument, readMembers,
      readFilters, Document.fill, Draft.finish, Except.map, bind, Except.bind]

mutual

theorem ofDocument_toJson (f : Filter) (h : ∀ c ∈ f.toList, c.ReadsBack) :
    ofDocument (toJson f).toDocument = .ok f := by
  match f with
  | .node kind conditions filters =>
    rw [Tree.toList_node, List.forall_mem_append] at h
    exact ofDocument_toJson_node h.1 (readAll_toJsonAll filters h.2)

theorem readAll_toJsonAll (fs : List Filter) (h : ∀ c ∈ listOfAll fs, c.ReadsBack) :
    readAll (Json.itemDocuments (toJsonAll fs)) = .ok fs := by
  match fs with
  | [] => rfl
  | f :: rest =>
    rw [Tree.listOfAll_cons, List.forall_mem_append] at h
    simp only [toJsonAll, Json.itemDocuments, readAll, ofDocument_toJson f h.1,
      readAll_toJsonAll rest h.2, Results.ok_bind]
    rfl

end

/-! ### Conditions of what has been read -/

theorem readsBack_of_readConditions {d : Document} {conditions : List Condition}
    (h : readConditions d = .ok conditions) : ∀ c ∈ conditions, c.ReadsBack := by
  unfold readConditions Document.toList at h
  split at h
  · exact Document.forall_readItems (fun _ _ => Condition.readsBack_of_ofDocument) h
  · cases h

/-- What has been met of a node is written without loss. -/
structure Draft.IsLossless (draft : Draft) : Prop where
  conditions : ∀ cs ∈ draft.conditions, ∀ c ∈ cs, c.ReadsBack
  filters : ∀ fs ∈ draft.filters, ∀ c ∈ listOfAll fs, c.ReadsBack

theorem Draft.IsLossless.finish {draft : Draft} (h : draft.IsLossless) :
    ∀ c ∈ draft.finish.toList, c.ReadsBack := by
  rw [Draft.finish, Tree.toList_node, List.forall_mem_append]
  constructor
  · cases hconditions : draft.conditions with
    | none => simp
    | some cs => exact h.conditions cs hconditions
  · cases hfilters : draft.filters with
    | none => simp
    | some fs => exact h.filters fs hfilters

theorem Draft.isLossless_empty : Draft.IsLossless {} := ⟨by simp, by simp⟩

mutual

theorem readsBack_of_ofDocument {d : Document} {f : Filter} (h : ofDocument d = .ok f) :
    ∀ c ∈ f.toList, c.ReadsBack := by
  match d with
  | .object members =>
    obtain ⟨draft, hdraft, rfl⟩ := Results.exceptMap_eq_ok.1 (by simpa only [ofDocument] using h)
    exact (isLossless_of_readMembers Draft.isLossless_empty hdraft).finish
  | .array [] =>
    cases h
    exact Draft.isLossless_empty.finish
  | .array [kind] =>
    simp only [ofDocument, Results.bind_eq_ok, Results.pure_eq_ok] at h
    obtain ⟨kind, -, rfl⟩ := h
    simp
  | .array [kind, conditions] =>
    simp only [ofDocument, Results.bind_eq_ok, Results.pure_eq_ok] at h
    obtain ⟨kind, -, cs, hcs, rfl⟩ := h
    simpa using readsBack_of_readConditions hcs
  | .array (kind :: conditions :: filters :: rest) =>
    simp only [ofDocument, Results.bind_eq_ok] at h
    obtain ⟨kind, -, cs, hcs, fs, hfs, h⟩ := h
    obtain rfl := Document.finish_eq_ok h
    rw [Tree.toList_node, List.forall_mem_append]
    exact ⟨readsBack_of_readConditions hcs, readsBack_of_readFilters hfs⟩
  | .null | .bool _ | .number _ | .string _ | .unreadable =>
    simp [ofDocument] at h

theorem readsBack_of_readFilters {d : Document} {fs : List Filter} (h : readFilters d = .ok fs) :
    ∀ c ∈ listOfAll fs, c.ReadsBack := by
  match d with
  | .array ds =>
    rw [readFilters] at h
    exact readsBack_of_readAll h
  | .null | .bool _ | .number _ | .string _ | .object _ | .unreadable =>
    simp [readFilters] at h

theorem readsBack_of_readAll {ds : List Document} {fs : List Filter} (h : readAll ds = .ok fs) :
    ∀ c ∈ listOfAll fs, c.ReadsBack := by
  match ds with
  | [] =>
    cases h
    simp
  | d :: rest =>
    simp only [readAll, Results.bind_eq_ok, Results.pure_eq_ok] at h
    obtain ⟨f, hf, fs, hfs, rfl⟩ := h
    rw [Tree.listOfAll_cons, List.forall_mem_append]
    exact ⟨readsBack_of_ofDocument hf, readsBack_of_readAll hfs⟩

theorem isLossless_of_readMembers {draft draft' : Draft}
    {members : List (Option String × Document)} (hdraft : draft.IsLossless)
    (h : readMembers draft members = .ok draft') : draft'.IsLossless := by
  match members with
  | [] =>
    cases h
    exact hdraft
  | (name, d) :: rest =>
    simp only [readMembers] at h
    split at h
    · obtain ⟨slot, -, h⟩ := Results.bind_eq_ok.1 h
      have hnext : Draft.IsLossless { draft with kind := slot } :=
        ⟨hdraft.conditions, hdraft.filters⟩
      exact isLossless_of_readMembers hnext h
    · obtain ⟨slot, hslot, h⟩ := Results.bind_eq_ok.1 h
      obtain ⟨cs, hcs, rfl⟩ := Document.fill_eq_ok hslot
      have hnext : Draft.IsLossless { draft with conditions := some cs } := by
        refine ⟨?_, hdraft.filters⟩
        rintro _ ⟨⟩
        exact readsBack_of_readConditions hcs
      exact isLossless_of_readMembers hnext h
    · obtain ⟨slot, hslot, h⟩ := Results.bind_eq_ok.1 h
      obtain ⟨fs, hfs, rfl⟩ := Document.fill_eq_ok hslot
      have hnext : Draft.IsLossless { draft with filters := some fs } := by
        refine ⟨hdraft.conditions, ?_⟩
        rintro _ ⟨⟩
        exact readsBack_of_readFilters hfs
      exact isLossless_of_readMembers hnext h
    · exact isLossless_of_readMembers hdraft h
    · cases h

end

/-- A filter that has been read, in whatever form it came, is written as a value that is read as an
equal filter, with as many conditions and levels, so that limits judge the two alike. Every key is
that of the operator it is read as; operators are found by their keys, and any other key stays what
it is. -/
theorem reads_back {d : Document} {f : Filter} (h : ofDocument d = .ok f) :
    (∃ g, ofDocument (toJson f).toDocument = .ok g ∧ g = f ∧ g.size = f.size ∧
      g.depth = f.depth ∧ ∀ l : Limits, l.check g = l.check f) ∧
    (∀ s, (Operator.ofKey s).key = s) ∧
    (∀ o : Operator, o.isUnknown = false → Operator.ofKey o.key = o) ∧
    ∀ s, Operator.ofKey s = .unknown s ↔ ∀ o : Operator, o.isUnknown = false → o.key ≠ s := by
  refine ⟨?_, Operator.key_ofKey, fun _ => Operator.ofKey_key,
    fun _ => Operator.ofKey_eq_unknown_iff⟩
  exact ⟨f, ofDocument_toJson f (readsBack_of_ofDocument h), rfl, rfl, rfl, fun _ => rfl⟩

/-- A node as an array, with a condition whose key names no operator and whose value repeats a
name, and with an empty node below. -/
theorem rhymes_reads_back :
    ∃ f, ofDocument (.array [.string "or",
        .array [.array [.string "title", .string "rhymes",
          .object [(some "with", .null), (some "with", .string "lean")], .null]],
        .array [.object []]]) = .ok f ∧
      f = .node .or [⟨"title", .unknown "rhymes", .object [("with", .string "lean")], none⟩]
        [.node .and [] []] ∧
      ∃ g, ofDocument (toJson f).toDocument = .ok g ∧ g = f := by
  have hread : ofDocument (.array [.string "or",
      .array [.array [.string "title", .string "rhymes",
        .object [(some "with", .null), (some "with", .string "lean")], .null]],
      .array [.object []]]) =
        .ok (.node .or [⟨"title", .unknown "rhymes", .object [("with", .string "lean")], none⟩]
          [.node .and [] []]) := rfl
  obtain ⟨⟨g, hg, heq, -⟩, -⟩ := reads_back hread
  exact ⟨_, hread, rfl, g, hg, heq⟩

end Filter
end RecordFilter
