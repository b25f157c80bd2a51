import RecordFilter.Json.Document
/-!
# Values spelled out

A value that a document denotes has each name at most once in an object, so the document that
spells it out denotes it again. Whatever way a value was written, nothing more is lost when it is
written and read again.

## Main statements

* `Json.toJson?_toDocument` — values of documents, written and read.
-/
namespace RecordFilter

namespace Json

variable {items : List Json} {members : List (String × Json)}

theorem itemValues?_itemDocuments (h : ∀ v ∈ items, v.toDocument.toJson? = some v) :
    Document.itemValues? (itemDocuments items) = some items := by
  induction items with
  | nil => rfl
  | cons v rest ih =>
    rw [List.forall_mem_cons] at h
    simp only [itemDocuments, Document.itemValues?, h.1, ih h.2]

theorem memberValues?_memberDocuments (h : ∀ m ∈ members, m.2.toDocument.toJson? = some m.2) :
    Document.memberValues? (memberDocuments members) = some members := by
  induction members with
  | nil => rfl
  | cons m rest ih =>
    obtain ⟨name, v⟩ := m
    rw [List.forall_mem_cons] at h
    simp only [memberDocuments, Document.memberValues?, h.1, ih h.2]

mutual

/-- The value of a document is denoted by the document that spells it out. -/
theorem toJson?_toDocument {d : Document} {v : Json} (h : d.toJson? = some v) :
    v.toDocument.toJson? = some v := by
  match d with
  | .null | .bool _ | .number _ | .string _ =>
    simp only [Document.toJson?, Option.some.injEq] at h
    rw [← h]
    rfl
  | .array ds =>
    simp only [Document.toJson?, Option.map_eq_some_iff] at h
    obtain ⟨vs, hvs, rfl⟩ := h
    rw [toDocument, Document.toJson?,
      itemValues?_itemDocuments (toJson?_toDocument_of_mem_itemValues? hvs), Option.map_some]
  | .object ds =>
    simp only [Document.toJson?, Option.map_eq_some_iff] at h
    obtain ⟨vs, hvs, rfl⟩ := h
    have hdistinct : ((Entries.putAll [] vs).map Prod.fst).Nodup :=
      Entries.nodup_putAll List.nodup_nil
    have hvalues : ∀ m ∈ Entries.putAll [] vs, m.2.toDocument.toJson? = some m.2 := fun m hm =>
      toJson?_toDocument_of_mem_memberValues? hvs m
        ((Entries.mem_or_mem_of_mem_putAll hm).resolve_left List.not_mem_nil)
    rw [toDocument, Document.toJson?, memberValues?_memberDocuments hvalues, Option.map_some,
      Entries.putAll_of_nodup (by simpa using hdistinct), List.nil_append]

theorem toJson?_toDocument_of_mem_itemValues? {ds : List Document} {items : List Json}
    (h : Document.itemValues? ds = some items) : ∀ v ∈ items, v.toDocument.toJson? = some v := by
  match ds with
  | [] =>
    cases h
    simp
  | d :: rest =>
    simp only [Document.itemValues?] at h
    split at h
    · next v vs hv hvs =>
      cases h
      exact List.forall_mem_cons.2
        ⟨toJson?_toDocument hv, toJson?_toDocument_of_mem_itemValues? hvs⟩
    · cases h

theorem toJson?_toDocument_of_mem_memberValues? {ds : List (Option String × Document)}
    {members : List (String × Json)} (h : Document.memberValues? ds = some members) :
    ∀ m ∈ members, m.2.toDocument.toJson? = some m.2 := by
  match ds with
  | [] =>
    cases h
    simp
  | (name, d) :: rest =>
    simp only [Document.memberValues?] at h
    split at h
    · next name v vs hv hvs =>
      cases h
      exact List.forall_mem_cons.2
        ⟨toJson?_toDocument hv, toJson?_toDocument_of_mem_memberValues? hvs⟩
    · cases h

end

end Json
end RecordFilter
