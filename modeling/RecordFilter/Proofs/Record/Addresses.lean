import RecordFilter.Proofs.Match.ExtendedValues
import RecordFilter.Proofs.Sql.TruthValues
/-!
# Where the values of a record are found

A field of a record is found in its document behind the steps of a path and in its row in the column
of a table. Names that take no path apart, and names of relations that are told apart, keep the
fields from hiding each other.

## Main definitions

* `Record.IsAddressable` — fields and relations with names that can be told apart.

## Main statements

* `Record.isFoundAs_own`, `Record.isFoundAs_related` — values found in a document.
* `Record.row_own`, `Record.row_related` — values found in a row.
-/
namespace RecordFilter

namespace Entries

variable {α β : Type}

theorem lookup?_append (name : String) (xs ys : List (String × α)) :
    lookup? name (xs ++ ys) = (lookup? name xs).or (lookup? name ys) := by
  induction xs with
  | nil => simp
  | cons entry rest ih =>
    obtain ⟨key, a⟩ := entry
    by_cases h : key = name <;> simp [lookup?, h, ih]

theorem lookup?_map {f : α → β} {g : String × α → String × β}
    (hg : ∀ key a, g (key, a) = (key, f a)) (name : String) (xs : List (String × α)) :
    lookup? name (xs.map g) = (lookup? name xs).map f := by
  induction xs with
  | nil => rfl
  | cons entry rest ih =>
    obtain ⟨key, a⟩ := entry
    by_cases h : key = name <;> simp [lookup?, hg, h, ih]

theorem mem_of_lookup? {name : String} {a : α} {xs : List (String × α)}
    (h : lookup? name xs = some a) : (name, a) ∈ xs := by
  induction xs with
  | nil => cases h
  | cons entry rest ih =>
    obtain ⟨key, b⟩ := entry
    by_cases hkey : key = name
    · obtain rfl : b = a := by simpa [lookup?, hkey] using h
      simp [hkey]
    · exact List.mem_cons_of_mem _ (ih (by simpa [lookup?, hkey] using h))

end Entries

/-! ## Paths -/

theorem splitPath_of_not_mem {cs : List Char} (h : '.' ∉ cs) : splitPath cs = [cs] := by
  induction cs with
  | nil => rfl
  | cons c cs ih =>
    obtain ⟨hc, hcs⟩ := not_or.1 (mt List.mem_cons.2 h)
    simp [splitPath, Ne.symm hc, ih hcs]

theorem splitPath_append {cs : List Char} (h : '.' ∉ cs) (rest : List Char) :
    splitPath (cs ++ '.' :: rest) = cs :: splitPath rest := by
  induction cs with
  | nil => simp [splitPath]
  | cons c cs ih =>
    obtain ⟨hc, hcs⟩ := not_or.1 (mt List.mem_cons.2 h)
    simp [splitPath, Ne.symm hc, ih hcs]

/-- A path of one step finds a member. -/
theorem Json.at?_name {name : String} (h : '.' ∉ name.toList) (members : List (String × Json)) :
    (Json.object members).at? name = Entries.lookup? name members := by
  rw [at?, splitPath_of_not_mem h, follow?, String.ofList_toList]
  cases Entries.lookup? name members <;> rfl

theorem Json.at?_step {name : String} (h : '.' ∉ name.toList) (rest : String)
    (members : List (String × Json)) :
    (Json.object members).at? (name ++ "." ++ rest) =
      (Entries.lookup? name members).bind fun v => v.at? rest := by
  have hpath : (name ++ "." ++ rest).toList = name.toList ++ '.' :: rest.toList := by simp
  rw [at?, hpath, splitPath_append h, follow?, String.ofList_toList]
  cases Entries.lookup? name members <;> rfl

/-! ## Names -/

/-- No name of an attribute is taken apart by dots. -/
def Schema.HasPlainNames (s : Schema) : Prop :=
  ∀ name a, s.attribute? name = some a → '.' ∉ name.toList

/-- The related records are joined under different names, none of them that of the schema. -/
structure Schema.HasOwnRelationNames (store : Store) (s : Schema) : Prop where
  own : ∀ field target reference related, (field, .lookup target reference) ∈ s.attributes →
    store.get? target = some related → related.relationName field ≠ s.logicalName
  distinct : ∀ field target reference related field' target' reference' related',
    (field, .lookup target reference) ∈ s.attributes → store.get? target = some related →
    (field', .lookup target' reference') ∈ s.attributes → store.get? target' = some related' →
    related.relationName field = related'.relationName field' → field = field'

/-- The record has no field of its own in the place of the related records. -/
def Record.KeepsExpansion (r : Record) : Prop := Entries.lookup? "@expand" r.values = none

/-- The fields of a record and of those it leads to are told apart by their addresses. -/
structure Record.IsAddressable (store : Store) (schema : Schema) (r : Record) : Prop where
  names : schema.HasPlainNames
  relatedNames : ∀ target related, store.get? target = some related → related.HasPlainNames
  relations : schema.HasOwnRelationNames store
  noExpansion : schema.attribute? "@expand" = none
  keepsExpansion : r.KeepsExpansion

/-! ## Documents -/

namespace Values

theorem isFoundAs_lookup? (values : Values) (name : String) :
    Value.IsFoundAs (values.get? name) (Entries.lookup? name
      (values.map fun (name, v) => (name, (v.map Value.toJson).getD Json.null))) := by
  rw [Entries.lookup?_map (fun _ _ => rfl), get?]
  rcases Entries.lookup? name values with - | (- | x)
  · exact Or.inl rfl
  · exact Or.inr rfl
  · rfl

end Values

namespace Record

variable {r : Record} {store : Store} {schema related : Schema} {field key target : String}
  {reference : ReferenceKind}

/-- A field of the record itself. -/
theorem isFoundAs_own (hfield : '.' ∉ field.toList) (hexpand : field ≠ "@expand") :
    Value.IsFoundAs (r.values.get? field) (r.document.at? field) := by
  rw [document, Json.at?_name hfield, Entries.lookup?_append]
  simp only [Entries.lookup?, Ne.symm hexpand, if_false, Option.or_none]
  exact r.values.isFoundAs_lookup? field

/-- A field of a record that a lookup leads to. -/
theorem isFoundAs_related (hr : r.KeepsExpansion) (hfield : '.' ∉ field.toList)
    (hkey : '.' ∉ key.toList) :
    Value.IsFoundAs ((r.relatedValues field).get? key)
      (r.document.at? ("@expand." ++ field ++ "." ++ key)) := by
  have hpath : "@expand." ++ field ++ "." ++ key = "@expand" ++ "." ++ (field ++ "." ++ key) := by
    simp [← String.toList_inj]
  rw [document, hpath, Json.at?_step (by decide), Entries.lookup?_append,
    Entries.lookup?_map (fun _ _ => rfl), hr]
  simp only [Option.map_none, Option.none_or, Entries.lookup?, if_true, Option.bind_some]
  rw [Json.at?_step hfield, Entries.lookup?_map (fun _ _ => rfl), relatedValues]
  cases Entries.lookup? field r.related with
  | none => exact Or.inl rfl
  | some values =>
    simp only [Option.map_some, Option.bind_some, Option.getD_some]
    rw [Values.document, Json.at?_name hkey]
    exact values.isFoundAs_lookup? key

/-! ## Rows -/

theorem row_own : r.row store schema ⟨some schema.logicalName, field⟩ =
    Value.cell (r.values.get? field) := by
  simp [row]

theorem joinedField?_eq_some {attributes : List (String × Attribute)}
    (hmem : (field, .lookup target reference) ∈ attributes)
    (hrelated : store.get? target = some related)
    (hdistinct : ∀ field' target' reference' related',
      (field', .lookup target' reference') ∈ attributes → store.get? target' = some related' →
      related'.relationName field' = related.relationName field → field' = field) :
    joinedField? store (related.relationName field) attributes = some field := by
  induction attributes with
  | nil => cases hmem
  | cons entry rest ih =>
    obtain ⟨name, a⟩ := entry
    have hrest (hne : (field, Attribute.lookup target reference) ≠ (name, a)) :
        joinedField? store (related.relationName field) rest = some field :=
      ih ((List.mem_cons.1 hmem).resolve_left hne)
        fun f t k s hf => hdistinct f t k s (List.mem_cons_of_mem _ hf)
    cases a with
    | lookup target' reference' =>
      cases hget : store.get? target' with
      | none =>
        simp only [joinedField?, hget]
        exact hrest (by rintro ⟨⟩; simp [hrelated] at hget)
      | some related' =>
        by_cases hname : related'.relationName name = related.relationName field
        · simp only [joinedField?, hget, if_pos hname]
          rw [hdistinct name target' reference' related' List.mem_cons_self hget hname]
        · simp only [joinedField?, hget, if_neg hname]
          exact hrest (by rintro ⟨⟩; simp_all)
    | _ =>
      simp only [joinedField?]
      exact hrest (by simp)

theorem row_related (h : schema.HasOwnRelationNames store)
    (hmem : (field, .lookup target reference) ∈ schema.attributes)
    (hrelated : store.get? target = some related) :
    r.row store schema ⟨some (related.relationName field), key⟩ =
      Value.cell ((r.relatedValues field).get? key) := by
  have hjoined := joinedField?_eq_some hmem hrelated fun f t k s hf hs =>
    h.distinct f t k s field target reference related hf hs hmem hrelated
  simp [row, h.own field target reference related hmem hrelated, hjoined]

end Record
end RecordFilter
