/-!
# Entries

Lists of values under names, in the order in which the names first came. The first value of a name
counts; a value is put in the place of the one that had its name, or at the end.

## Main definitions

* `Entries.lookup?`, `Entries.put`, `Entries.putAll`.
-/
namespace RecordFilter.Entries

variable {α : Type}

def lookup? (name : String) : List (String × α) → Option α
  | [] => none
  | (key, a) :: rest => if key = name then some a else lookup? name rest

def put (name : String) (a : α) : List (String × α) → List (String × α)
  | [] => [(name, a)]
  | (key, old) :: rest => if key = name then (key, a) :: rest else (key, old) :: put name a rest

/-- Values put one after the other. -/
def putAll (entries : List (String × α)) : List (String × α) → List (String × α)
  | [] => entries
  | (name, a) :: rest => putAll (put name a entries) rest

@[simp] theorem lookup?_nil (name : String) : lookup? name ([] : List (String × α)) = none := rfl

theorem lookup?_put (name : String) (a : α) (entries : List (String × α)) (key : String) :
    lookup? key (put name a entries) = if name = key then some a else lookup? key entries := by
  induction entries with
  | nil => simp [put, lookup?]
  | cons entry rest ih =>
    obtain ⟨n, b⟩ := entry
    by_cases h : n = name <;> by_cases hk : n = key <;> simp_all [put, lookup?]
    intro e
    exact absurd e.symm h

/-- Names keep their places. -/
theorem map_fst_put (name : String) (a : α) (entries : List (String × α)) :
    (put name a entries).map Prod.fst =
      if name ∈ entries.map Prod.fst then entries.map Prod.fst
      else entries.map Prod.fst ++ [name] := by
  induction entries with
  | nil => simp [put]
  | cons entry rest ih =>
    obtain ⟨n, b⟩ := entry
    by_cases h : n = name
    · simp [put, h]
    · by_cases hm : name ∈ rest.map Prod.fst <;> simp_all [put, Ne.symm h]

/-- Nothing but the value that is put becomes an entry. -/
theorem mem_or_eq_of_mem_put {name : String} {a : α} {entries : List (String × α)}
    {entry : String × α} (h : entry ∈ put name a entries) :
    entry ∈ entries ∨ entry = (name, a) := by
  induction entries with
  | nil => exact Or.inr (List.mem_singleton.1 h)
  | cons first rest ih =>
    obtain ⟨key, old⟩ := first
    by_cases hkey : key = name
    · simp only [put, hkey, if_true, List.mem_cons] at h ⊢
      grind
    · simp only [put, hkey, if_false, List.mem_cons] at h ⊢
      grind

/-- Distinct names stay distinct. -/
theorem nodup_put {name : String} {a : α} {entries : List (String × α)}
    (h : (entries.map Prod.fst).Nodup) : ((put name a entries).map Prod.fst).Nodup := by
  rw [map_fst_put]
  split
  · exact h
  · next hnew =>
    refine List.nodup_append.2 ⟨h, by simp, fun key hkey name' hname' heq => hnew ?_⟩
    rw [← List.mem_singleton.1 hname', ← heq]
    exact hkey

/-- A value under a new name comes last. -/
theorem put_of_not_mem {name : String} {a : α} {entries : List (String × α)}
    (h : name ∉ entries.map Prod.fst) : put name a entries = entries ++ [(name, a)] := by
  induction entries with
  | nil => rfl
  | cons first rest ih =>
    obtain ⟨key, old⟩ := first
    rw [List.map_cons, List.mem_cons, not_or] at h
    rw [put, if_neg (Ne.symm h.1), ih h.2, List.cons_append]

/-! ## Several values -/

section PutAll

variable {entries rest : List (String × α)} {entry : String × α}

theorem nodup_putAll (h : (entries.map Prod.fst).Nodup) :
    ((putAll entries rest).map Prod.fst).Nodup := by
  induction rest generalizing entries with
  | nil => exact h
  | cons entry rest ih => exact ih (nodup_put h)

theorem mem_or_mem_of_mem_putAll (h : entry ∈ putAll entries rest) :
    entry ∈ entries ∨ entry ∈ rest := by
  induction rest generalizing entries with
  | nil => exact Or.inl h
  | cons first rest ih =>
    rcases ih h with hput | hrest
    · refine (mem_or_eq_of_mem_put hput).imp_right fun hfirst => ?_
      rw [hfirst]
      exact List.mem_cons_self
    · exact Or.inr (List.mem_cons_of_mem _ hrest)

/-- Values under distinct names come one after the other. -/
theorem putAll_of_nodup (h : ((entries ++ rest).map Prod.fst).Nodup) :
    putAll entries rest = entries ++ rest := by
  induction rest generalizing entries with
  | nil => rw [putAll, List.append_nil]
  | cons first rest ih =>
    obtain ⟨name, a⟩ := first
    have hnew : name ∉ entries.map Prod.fst := fun hmem => by
      rw [List.map_append, List.nodup_append] at h
      exact h.2.2 name hmem name (by simp) rfl
    rw [putAll, put_of_not_mem hnew, ih (by simpa using h), List.append_assoc,
      List.singleton_append]

end PutAll

end RecordFilter.Entries
