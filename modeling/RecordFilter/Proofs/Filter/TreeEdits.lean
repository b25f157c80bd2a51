import Mathlib.Logic.Relation
import RecordFilter.Proofs.Filter.TreeFolds
/-!
# Edits without effect

Leaves and subtrees that contribute nothing may be deleted anywhere in a tree, and subtrees may be
wrapped in new nodes: the tree is combined to the same, and a traversal finds the same or fails in
the same way.

## Main definitions

* `Tree.gather` — what is found in the results of a traversal.
* `Tree.Edit` — one such change at any place of a tree.

## Main statements

* `Tree.traverseList_eq_error_iff` — how a traversal fails.
* `Tree.combine_of_edits`, `Tree.gather_of_edits` — any number of edits.
-/
namespace RecordFilter.Tree

variable {α β γ ε : Type}

/-! ## Traversals that collect -/

/-- What is found in the results of the elements of a list, taken one after the other. -/
def gather (f : α → Except ε β) (found : β → Option γ) (as : List α) : Except ε (List γ) :=
  (traverseList f as).map (List.filterMap found)

variable {f : α → Except ε β} {found : β → Option γ}

theorem gather_append (as bs : List α) :
    gather f found (as ++ bs) =
      (gather f found as).bind fun xs => (gather f found bs).map fun ys => xs ++ ys := by
  simp only [gather, traverseList_append]
  cases traverseList f as with
  | error e => rfl
  | ok xs => cases traverseList f bs <;> simp [Except.bind, Except.map]

/-- What is found in a list depends on a piece of it only through what is found there. -/
theorem gather_congr {piece piece' : List α} (h : gather f found piece = gather f found piece')
    (before after : List α) :
    gather f found (before ++ piece ++ after) = gather f found (before ++ piece' ++ after) := by
  simp only [gather_append, h]

/-- A traversal fails with the fault of the first element that has no result. -/
theorem traverseList_eq_error_iff {as : List α} {e : ε} :
    traverseList f as = .error e ↔
      ∃ before a after, as = before ++ a :: after ∧ (∀ x ∈ before, ∃ b, f x = .ok b) ∧
        f a = .error e := by
  constructor
  · intro h
    induction as with
    | nil => cases h
    | cons a as ih =>
      cases ha : f a with
      | error e' =>
        simp only [traverseList, ha] at h
        cases h
        exact ⟨[], a, as, rfl, by simp, ha⟩
      | ok b =>
        simp only [traverseList, ha] at h
        split at h
        · next e' hrest =>
          cases h
          obtain ⟨before, x, after, rfl, hbefore, hx⟩ := ih hrest
          refine ⟨a :: before, x, after, rfl, fun y hy => ?_, hx⟩
          rcases List.mem_cons.1 hy with rfl | hy
          · exact ⟨b, ha⟩
          · exact hbefore y hy
        · cases h
  · rintro ⟨before, a, after, rfl, hbefore, ha⟩
    exact traverseList_eq_error hbefore ha

/-- A traversal succeeds if every element has a result, and only then. -/
theorem exists_traverseList_iff {as : List α} :
    (∃ bs, traverseList f as = .ok bs) ↔ ∀ a ∈ as, ∃ b, f a = .ok b := by
  induction as with
  | nil => simp [traverseList]
  | cons a as ih =>
    rw [List.forall_mem_cons, ← ih, traverseList]
    cases f a with
    | error e => simp
    | ok b => cases traverseList f as <;> simp

/-! ## Edits -/

/-- The tree of a single leaf. -/
def single (a : α) : Tree α := node .and [a] []

@[simp] theorem toList_single (a : α) : (single a).toList = [a] := by simp [single]

/-- One change to a tree: a leaf or a subtree that is idle is deleted, or a tree is wrapped as the
only child of a new node, at any place of the tree. -/
inductive Edit (idle : Tree α → Prop) : Tree α → Tree α → Prop
  | dropLeaf {a : α} (h : idle (single a)) (kind : Connective) (before after : List α)
      (children : List (Tree α)) :
      Edit idle (node kind (before ++ a :: after) children) (node kind (before ++ after) children)
  | dropChild {t : Tree α} (h : idle t) (kind : Connective) (leaves : List α)
      (before after : List (Tree α)) :
      Edit idle (node kind leaves (before ++ t :: after)) (node kind leaves (before ++ after))
  | wrap (kind : Connective) (t : Tree α) : Edit idle t (node kind [] [t])
  | inside {t u : Tree α} (h : Edit idle t u) (kind : Connective) (leaves : List α)
      (before after : List (Tree α)) :
      Edit idle (node kind leaves (before ++ t :: after)) (node kind leaves (before ++ u :: after))

theorem listOfAll_append (ts us : List (Tree α)) :
    listOfAll (ts ++ us) = listOfAll ts ++ listOfAll us := by
  induction ts with
  | nil => simp
  | cons t ts ih => simp [ih]

variable {connect : Connective → List β → β} {part : α → Option β}

theorem combineAll_append (ts us : List (Tree α)) :
    combineAll connect part (ts ++ us) =
      combineAll connect part ts ++ combineAll connect part us := by
  induction ts with
  | nil => simp [combineAll]
  | cons t ts ih => simp [combineAll, ih]

variable {idle : Tree α → Prop} {t u : Tree α}

/-- Trees are combined alike before and after an edit, if nothing comes from what is idle. -/
theorem combine_of_edit (hidle : ∀ t, idle t → t.combine connect part = none)
    (h : Edit idle t u) : u.combine connect part = t.combine connect part := by
  induction h with
  | @dropLeaf a ha kind before after children =>
    have hpart : part a = none := by
      have hnone := hidle _ ha
      cases hpart : part a with
      | none => rfl
      | some b => simp [single, combine, combineAll, hpart] at hnone
    simp [combine, hpart]
  | dropChild ht kind leaves before after =>
    simp [combine, combineAll_append, combineAll, hidle _ ht]
  | wrap kind t =>
    rw [combine, combineAll, combineAll, List.filterMap_nil, List.nil_append, List.append_nil]
    cases t.combine connect part <;> rfl
  | inside _ kind leaves before after ih =>
    simp [combine, combineAll_append, combineAll, ih]

/-- A traversal finds the same before and after an edit, if nothing is found in what is idle. -/
theorem gather_of_edit (hidle : ∀ t, idle t → gather f found t.toList = .ok [])
    (h : Edit idle t u) : gather f found u.toList = gather f found t.toList := by
  have hdrop {piece : List α} (hpiece : gather f found piece = .ok []) (before after : List α) :
      gather f found (before ++ after) = gather f found (before ++ piece ++ after) := by
    have hnil : gather f found [] = gather f found piece := hpiece.symm
    simpa using gather_congr hnil before after
  induction h with
  | @dropLeaf a ha kind before after children =>
    have hpiece : gather f found [a] = .ok [] := toList_single a ▸ hidle _ ha
    simpa using hdrop hpiece before (after ++ listOfAll children)
  | dropChild ht kind leaves before after =>
    simpa [listOfAll_append] using
      hdrop (hidle _ ht) (leaves ++ listOfAll before) (listOfAll after)
  | wrap kind t => simp
  | inside _ kind leaves before after ih =>
    simpa [listOfAll_append] using
      gather_congr ih (leaves ++ listOfAll before) (listOfAll after)

theorem combine_of_edits (hidle : ∀ t, idle t → t.combine connect part = none)
    (h : Relation.ReflTransGen (Edit idle) t u) :
    u.combine connect part = t.combine connect part := by
  induction h with
  | refl => rfl
  | tail _ hstep ih => exact (combine_of_edit hidle hstep).trans ih

theorem gather_of_edits (hidle : ∀ t, idle t → gather f found t.toList = .ok [])
    (h : Relation.ReflTransGen (Edit idle) t u) :
    gather f found u.toList = gather f found t.toList := by
  induction h with
  | refl => rfl
  | tail _ hstep ih => exact (gather_of_edit hidle hstep).trans ih

end RecordFilter.Tree
