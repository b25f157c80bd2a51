/-!
# Trees of conditions

A node joins its leaves and its subtrees by *and* or by *or*. Leaves are visited before subtrees,
from left to right; that order decides which fault is reported and how predicates are arranged.

## Main definitions

* `Tree.toList` — the leaves in the order they are visited.
* `Tree.map`, `Tree.traverse` — a function applied to every leaf; the first failure counts.
* `Tree.combine` — the parts that leaves give, joined node by node; a node without parts gives none
  and a single part stands for itself.
-/
namespace RecordFilter

inductive Connective where
  | and | or
  deriving DecidableEq, Repr

inductive Tree (α : Type) where
  | node (kind : Connective) (leaves : List α) (children : List (Tree α))
  deriving Repr

namespace Tree

variable {α β ε : Type}

def kind : Tree α → Connective
  | node kind _ _ => kind

def leaves : Tree α → List α
  | node _ leaves _ => leaves

def children : Tree α → List (Tree α)
  | node _ _ children => children

def isEmpty (t : Tree α) : Bool := t.leaves.isEmpty && t.children.isEmpty

mutual

def toList : Tree α → List α
  | node _ leaves children => leaves ++ listOfAll children

def listOfAll : List (Tree α) → List α
  | [] => []
  | t :: rest => toList t ++ listOfAll rest

end

/-- The number of leaves in the tree. -/
def size (t : Tree α) : Nat := t.toList.length

mutual

/-- Levels of nesting; a tree without subtrees has one. -/
def depth : Tree α → Nat
  | node _ _ children => 1 + greatestDepth children

def greatestDepth : List (Tree α) → Nat
  | [] => 0
  | t :: rest => max (depth t) (greatestDepth rest)

end

/-! ## Leaves changed one by one -/

mutual

def map (f : α → β) : Tree α → Tree β
  | node kind leaves children => node kind (leaves.map f) (mapAll f children)

def mapAll (f : α → β) : List (Tree α) → List (Tree β)
  | [] => []
  | t :: rest => map f t :: mapAll f rest

end

/-- A function applied along a list up to its first failure. -/
def traverseList (f : α → Except ε β) : List α → Except ε (List β)
  | [] => .ok []
  | a :: rest =>
    match f a with
    | .error e => .error e
    | .ok b =>
      match traverseList f rest with
      | .error e => .error e
      | .ok bs => .ok (b :: bs)

mutual

def traverse (f : α → Except ε β) : Tree α → Except ε (Tree β)
  | node kind leaves children =>
    match traverseList f leaves with
    | .error e => .error e
    | .ok leaves =>
      match traverseAll f children with
      | .error e => .error e
      | .ok children => .ok (node kind leaves children)

def traverseAll (f : α → Except ε β) : List (Tree α) → Except ε (List (Tree β))
  | [] => .ok []
  | t :: rest =>
    match traverse f t with
    | .error e => .error e
    | .ok t =>
      match traverseAll f rest with
      | .error e => .error e
      | .ok rest => .ok (t :: rest)

end

/-! ## Parts joined -/

/-- Two parts or more are joined; one stands for itself. -/
def join (connect : Connective → List β → β) (kind : Connective) : List β → Option β
  | [] => none
  | [b] => some b
  | parts => some (connect kind parts)

mutual

def combine (connect : Connective → List β → β) (part : α → Option β) : Tree α → Option β
  | node kind leaves children =>
    join connect kind (leaves.filterMap part ++ combineAll connect part children)

def combineAll (connect : Connective → List β → β) (part : α → Option β) :
    List (Tree α) → List β
  | [] => []
  | t :: rest => (combine connect part t).toList ++ combineAll connect part rest

end

/-! ## Laws -/

@[simp] theorem toList_node (kind : Connective) (leaves : List α) (children : List (Tree α)) :
    (node kind leaves children).toList = leaves ++ listOfAll children := by
  simp [toList]

@[simp] theorem listOfAll_nil : listOfAll ([] : List (Tree α)) = [] := by simp [listOfAll]

@[simp] theorem listOfAll_cons (t : Tree α) (rest : List (Tree α)) :
    listOfAll (t :: rest) = t.toList ++ listOfAll rest := by
  simp [listOfAll]

@[simp] theorem join_nil (connect : Connective → List β → β) (kind : Connective) :
    join connect kind [] = none := rfl

@[simp] theorem join_singleton (connect : Connective → List β → β) (kind : Connective) (b : β) :
    join connect kind [b] = some b := rfl

end Tree
end RecordFilter
