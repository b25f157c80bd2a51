import RecordFilter.Filter.Tree
/-!
# Combining trees

A tree whose leaves were replaced is combined like the tree it came from, and a reading of joined
parts may be applied before or after the parts are combined. What is asked of a whole tree from left
to right may be asked of the list of its leaves.

## Main statements

* `Tree.combine_of_traverse` — a tree of results combined like the tree of its leaves.
* `Tree.map_combine`, `Tree.forall_combine` — readings and invariants of joined parts.
* `Tree.traverseList_eq_or` — where two traversals of a list part.
* `Tree.map_toList_traverse`, `Tree.flatMap_combine`, `Tree.isSome_combine` — trees by their leaves.
-/
namespace RecordFilter.Tree

variable {α β γ ε : Type}

/-! ## Replaced leaves -/

theorem filterMap_of_traverseList {f : α → Except ε β} {part : β → Option γ}
    {part' : α → Option γ} {as : List α} {bs : List β} (h : traverseList f as = .ok bs)
    (hpart : ∀ a ∈ as, ∀ b, f a = .ok b → part b = part' a) :
    bs.filterMap part = as.filterMap part' := by
  induction as generalizing bs with
  | nil =>
    cases h
    rfl
  | cons a as ih =>
    simp only [traverseList] at h
    split at h
    · cases h
    · next b hb =>
      split at h
      · cases h
      · next bs' hbs =>
        cases h
        have hfirst := hpart a List.mem_cons_self b hb
        have hrest := ih hbs fun a' ha' => hpart a' (List.mem_cons_of_mem _ ha')
        simp only [List.filterMap_cons, hfirst, hrest]

variable {f : α → Except ε β} {connect : Connective → List γ → γ} {part : β → Option γ}
  {part' : α → Option γ}

mutual

/-- Results whose parts are those of their leaves are combined like the leaves. -/
theorem combine_of_traverse {t : Tree α} {u : Tree β} (h : t.traverse f = .ok u)
    (hpart : ∀ a ∈ t.toList, ∀ b, f a = .ok b → part b = part' a) :
    u.combine connect part = t.combine connect part' := by
  match t with
  | node kind leaves children =>
    simp only [traverse] at h
    split at h
    · cases h
    · next bs hbs =>
      split at h
      · cases h
      · next us hus =>
        cases h
        have hleaves := filterMap_of_traverseList hbs fun a ha => hpart a (by simp [ha])
        have hchildren := combineAll_of_traverseAll hus fun a ha => hpart a (by simp [ha])
        simp only [combine, hleaves, hchildren]

theorem combineAll_of_traverseAll {ts : List (Tree α)} {us : List (Tree β)}
    (h : traverseAll f ts = .ok us)
    (hpart : ∀ a ∈ listOfAll ts, ∀ b, f a = .ok b → part b = part' a) :
    combineAll connect part us = combineAll connect part' ts := by
  match ts with
  | [] =>
    cases h
    simp [combineAll]
  | t :: ts =>
    simp only [traverseAll] at h
    split at h
    · cases h
    · next u hu =>
      split at h
      · cases h
      · next us' hus =>
        cases h
        have hfirst := combine_of_traverse hu fun a ha => hpart a (by simp [ha])
        have hrest := combineAll_of_traverseAll hus fun a ha => hpart a (by simp [ha])
        simp only [combineAll, hfirst, hrest]

end

/-! ## Readings of joined parts -/

section Reading

variable {connect : Connective → List β → β} {connect' : Connective → List γ → γ} {g : β → γ}

theorem map_join (hg : ∀ kind parts, g (connect kind parts) = connect' kind (parts.map g))
    (kind : Connective) (parts : List β) :
    (join connect kind parts).map g = join connect' kind (parts.map g) := by
  match parts with
  | [] => rfl
  | [b] => rfl
  | b :: b' :: rest => simp [join, hg]

mutual

/-- A reading that follows the connectives is applied to the parts of the leaves. -/
theorem map_combine (hg : ∀ kind parts, g (connect kind parts) = connect' kind (parts.map g))
    (part : α → Option β) (t : Tree α) :
    (t.combine connect part).map g = t.combine connect' fun a => (part a).map g := by
  match t with
  | node kind leaves children =>
    rw [combine, combine, map_join hg, List.map_append, List.map_filterMap,
      map_combineAll hg part children]

theorem map_combineAll (hg : ∀ kind parts, g (connect kind parts) = connect' kind (parts.map g))
    (part : α → Option β) (ts : List (Tree α)) :
    (combineAll connect part ts).map g = combineAll connect' (fun a => (part a).map g) ts := by
  match ts with
  | [] => simp [combineAll]
  | t :: ts =>
    rw [combineAll, combineAll, List.map_append, map_combineAll hg part ts,
      ← map_combine hg part t]
    cases t.combine connect part <;> rfl

end

end Reading

/-! ## What holds of joined parts -/

section Invariant

variable {connect : Connective → List β → β} {good : β → Prop}

theorem forall_join (hconnect : ∀ kind parts, 2 ≤ parts.length → (∀ b ∈ parts, good b) →
      good (connect kind parts))
    (kind : Connective) {parts : List β} (h : ∀ b ∈ parts, good b) :
    ∀ b ∈ join connect kind parts, good b := by
  intro b hb
  match parts with
  | [] => cases hb
  | [b'] =>
    cases hb
    exact h b List.mem_cons_self
  | b' :: b'' :: rest =>
    cases hb
    exact hconnect kind _ (by simp) h

mutual

/-- What holds of the parts of the leaves, and of two or more parts joined if it holds of them,
holds of what the tree is combined to. -/
theorem forall_combine (hconnect : ∀ kind parts, 2 ≤ parts.length → (∀ b ∈ parts, good b) →
      good (connect kind parts))
    {part : α → Option β} {t : Tree α} (h : ∀ a ∈ t.toList, ∀ b ∈ part a, good b) :
    ∀ b ∈ t.combine connect part, good b := by
  match t with
  | node kind leaves children =>
    rw [combine]
    refine forall_join hconnect kind (List.forall_mem_append.2 ⟨fun b hb => ?_, ?_⟩)
    · obtain ⟨a, ha, hpart⟩ := List.mem_filterMap.1 hb
      exact h a (by simp [ha]) b hpart
    · exact forall_combineAll hconnect fun a ha => h a (by simp [ha])

theorem forall_combineAll (hconnect : ∀ kind parts, 2 ≤ parts.length → (∀ b ∈ parts, good b) →
      good (connect kind parts))
    {part : α → Option β} {ts : List (Tree α)} (h : ∀ a ∈ listOfAll ts, ∀ b ∈ part a, good b) :
    ∀ b ∈ combineAll connect part ts, good b := by
  match ts with
  | [] => simp [combineAll]
  | t :: ts =>
    rw [combineAll, List.forall_mem_append]
    refine ⟨fun b hb => ?_, forall_combineAll hconnect fun a ha => h a (by simp [ha])⟩
    exact forall_combine hconnect (fun a ha => h a (by simp [ha])) b (Option.mem_toList.1 hb)

end

end Invariant

/-! ## Leaves in order -/

theorem traverseList_append (f : α → Except ε β) (as bs : List α) :
    traverseList f (as ++ bs) =
      (traverseList f as).bind fun xs => (traverseList f bs).map fun ys => xs ++ ys := by
  induction as with
  | nil => cases h : traverseList f bs <;> simp [traverseList, Except.bind, Except.map, h]
  | cons a as ih =>
    simp only [List.cons_append, traverseList, ih]
    cases f a with
    | error e => rfl
    | ok b =>
      cases traverseList f as with
      | error e => rfl
      | ok xs => cases traverseList f bs <;> rfl

theorem traverseList_map (f : α → Except ε β) (g : β → γ) (as : List α) :
    traverseList (fun a => (f a).map g) as = (traverseList f as).map (List.map g) := by
  induction as with
  | nil => rfl
  | cons a as ih =>
    simp only [traverseList, ih]
    cases f a with
    | error e => rfl
    | ok b => cases traverseList f as <;> rfl

/-- A traversal fails at the first element that has no result. -/
theorem traverseList_eq_error {f : α → Except ε β} {before after : List α} {a : α} {e : ε}
    (hbefore : ∀ x ∈ before, ∃ b, f x = .ok b) (ha : f a = .error e) :
    traverseList f (before ++ a :: after) = .error e := by
  induction before with
  | nil => simp only [List.nil_append, traverseList, ha]
  | cons x before ih =>
    obtain ⟨b, hb⟩ := hbefore x List.mem_cons_self
    have hrest := ih fun y hy => hbefore y (List.mem_cons_of_mem _ hy)
    simp only [List.cons_append, traverseList, hb, hrest]

/-- Two traversals agree, or they part at an element behind those on which both have the same
results. -/
theorem traverseList_eq_or (f g : α → Except ε β) (as : List α) :
    traverseList f as = traverseList g as ∨
      ∃ before a after, as = before ++ a :: after ∧
        (∀ x ∈ before, f x = g x ∧ ∃ b, g x = .ok b) ∧ f a ≠ g a := by
  induction as with
  | nil => exact Or.inl rfl
  | cons a as ih =>
    by_cases hfirst : f a = g a
    · cases hg : g a with
      | error e =>
        left
        simp only [traverseList, hfirst, hg]
      | ok b =>
        rcases ih with hrest | ⟨before, x, after, rfl, hbefore, hx⟩
        · left
          simp only [traverseList, hfirst, hg, hrest]
        · right
          refine ⟨a :: before, x, after, rfl, fun y hy => ?_, hx⟩
          rcases List.mem_cons.1 hy with rfl | hy
          · exact ⟨hfirst, b, hg⟩
          · exact hbefore y hy
    · exact Or.inr ⟨[], a, as, rfl, by simp, hfirst⟩

theorem traverseList_congr {f g : α → Except ε β} {as : List α} (h : ∀ a ∈ as, f a = g a) :
    traverseList f as = traverseList g as := by
  induction as with
  | nil => rfl
  | cons a as ih =>
    rw [List.forall_mem_cons] at h
    simp only [traverseList, h.1, ih h.2]

mutual

/-- Steps that agree on the leaves lead to the same tree. -/
theorem traverse_congr {f g : α → Except ε β} {t : Tree α} (h : ∀ a ∈ t.toList, f a = g a) :
    t.traverse f = t.traverse g := by
  match t with
  | node kind leaves children =>
    rw [toList_node, List.forall_mem_append] at h
    simp only [traverse, traverseList_congr h.1, traverseAll_congr h.2]

theorem traverseAll_congr {f g : α → Except ε β} {ts : List (Tree α)}
    (h : ∀ a ∈ listOfAll ts, f a = g a) : traverseAll f ts = traverseAll g ts := by
  match ts with
  | [] => simp [traverseAll]
  | t :: ts =>
    rw [listOfAll_cons, List.forall_mem_append] at h
    simp only [traverseAll, traverse_congr h.1, traverseAll_congr h.2]

end

mutual

/-- The leaves of a traversed tree are those of the tree, traversed one after the other. -/
theorem map_toList_traverse (f : α → Except ε β) (t : Tree α) :
    (t.traverse f).map toList = traverseList f t.toList := by
  match t with
  | node kind leaves children =>
    rw [toList_node, traverseList_append, ← map_listOfAll_traverseAll f children, traverse]
    cases traverseList f leaves with
    | error e => rfl
    | ok bs => cases traverseAll f children <;> simp [Except.bind, Except.map]

theorem map_listOfAll_traverseAll (f : α → Except ε β) (ts : List (Tree α)) :
    (traverseAll f ts).map listOfAll = traverseList f (listOfAll ts) := by
  match ts with
  | [] => simp [traverseAll, traverseList, Except.map]
  | t :: ts =>
    rw [listOfAll_cons, traverseList_append, ← map_toList_traverse f t,
      ← map_listOfAll_traverseAll f ts, traverseAll]
    cases traverse f t with
    | error e => rfl
    | ok u => cases traverseAll f ts <;> simp [Except.bind, Except.map]

end

/-! ## What joined parts list -/

section Parts

variable {connect : Connective → List β → β} {g : β → List γ}

theorem flatMap_join (hg : ∀ kind parts, g (connect kind parts) = parts.flatMap g)
    (kind : Connective) (parts : List β) :
    (join connect kind parts).toList.flatMap g = parts.flatMap g := by
  match parts with
  | [] => rfl
  | [b] => rfl
  | b :: b' :: rest => simp [join, hg]

mutual

/-- What joined parts list one after the other is what the parts of the leaves list. -/
theorem flatMap_combine (hg : ∀ kind parts, g (connect kind parts) = parts.flatMap g)
    (part : α → Option β) (t : Tree α) :
    (t.combine connect part).toList.flatMap g = (t.toList.filterMap part).flatMap g := by
  match t with
  | node kind leaves children =>
    rw [combine, flatMap_join hg, toList_node, List.flatMap_append, List.filterMap_append,
      List.flatMap_append, flatMap_combineAll hg part children]

theorem flatMap_combineAll (hg : ∀ kind parts, g (connect kind parts) = parts.flatMap g)
    (part : α → Option β) (ts : List (Tree α)) :
    (combineAll connect part ts).flatMap g = ((listOfAll ts).filterMap part).flatMap g := by
  match ts with
  | [] => simp [combineAll]
  | t :: ts =>
    rw [combineAll, listOfAll_cons, List.flatMap_append, List.filterMap_append,
      List.flatMap_append, flatMap_combine hg part t, flatMap_combineAll hg part ts]

end

theorem isSome_join (kind : Connective) (parts : List β) :
    (join connect kind parts).isSome = !parts.isEmpty := by
  rcases parts with - | ⟨b, - | ⟨b', rest⟩⟩ <;> rfl

mutual

/-- A tree has joined parts if one of its leaves has a part. -/
theorem isSome_combine (part : α → Option β) (t : Tree α) :
    (t.combine connect part).isSome = !(t.toList.filterMap part).isEmpty := by
  match t with
  | node kind leaves children =>
    have hchildren := isEmpty_combineAll part children
    rw [combine, isSome_join, toList_node, List.filterMap_append]
    cases leaves.filterMap part <;> simp [hchildren]

theorem isEmpty_combineAll (part : α → Option β) (ts : List (Tree α)) :
    (combineAll connect part ts).isEmpty = ((listOfAll ts).filterMap part).isEmpty := by
  match ts with
  | [] => simp [combineAll]
  | t :: ts =>
    have hfirst := isSome_combine part t
    have hrest := isEmpty_combineAll part ts
    rw [combineAll, listOfAll_cons, List.filterMap_append]
    cases hpart : t.toList.filterMap part <;> cases hcombine : t.combine connect part <;>
      simp_all

end

end Parts
end RecordFilter.Tree
