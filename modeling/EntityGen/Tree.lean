/-! # Trees

Classes lie inside classes, and so do the entities and field interfaces generated from them. All of
them are trees with a value at each node and the children in order. -/

namespace EntityGen

/-- A tree with a value at each node. -/
inductive Tree (α : Type) where
  | node (value : α) (children : List (Tree α))
  deriving Repr, BEq

namespace Tree

variable {α β : Type}

instance [Inhabited α] : Inhabited (Tree α) := ⟨node default []⟩

/-- The value at the root. -/
def value : Tree α → α
  | node v _ => v

/-- The trees below the root. -/
def children : Tree α → List (Tree α)
  | node _ ts => ts

@[simp] theorem value_node (v : α) (ts : List (Tree α)) : (node v ts).value = v := rfl

@[simp] theorem children_node (v : α) (ts : List (Tree α)) : (node v ts).children = ts := rfl

@[simp] theorem node_value_children (t : Tree α) : node t.value t.children = t := by
  cases t; rfl

/-- The tree with a new value at the root. -/
def mapRoot (f : α → α) (t : Tree α) : Tree α := node (f t.value) t.children

/-- The tree with `child` after the other children. -/
def addChild (t : Tree α) (child : Tree α) : Tree α := node t.value (t.children ++ [child])

/-! ## Enumeration -/

mutual

/-- The tree and all trees inside it, each before those inside it. -/
def subtrees : Tree α → List (Tree α)
  | node v ts => node v ts :: subtreesOfAll ts

/-- The trees of a list and all trees inside them. -/
def subtreesOfAll : List (Tree α) → List (Tree α)
  | [] => []
  | t :: ts => t.subtrees ++ subtreesOfAll ts

end

/-- The values in the tree, each before those below it. -/
def values (t : Tree α) : List α := t.subtrees.map value

/-- The number of nodes. -/
def size (t : Tree α) : Nat := t.subtrees.length

theorem subtreesOfAll_eq_flatMap (ts : List (Tree α)) :
    subtreesOfAll ts = ts.flatMap subtrees := by
  induction ts with
  | nil => rfl
  | cons t ts ih => simp [subtreesOfAll, ih]

@[simp] theorem subtrees_node (v : α) (ts : List (Tree α)) :
    (node v ts).subtrees = node v ts :: ts.flatMap subtrees := by
  rw [subtrees, subtreesOfAll_eq_flatMap]

@[simp] theorem values_node (v : α) (ts : List (Tree α)) :
    (node v ts).values = v :: ts.flatMap values := by
  simp [values, List.map_flatMap]
  rfl

/-! ## Mapping -/

mutual

/-- The tree with a new value at each node, made from the old one and those of the children. -/
def mapWithChildren (f : α → List α → β) : Tree α → Tree β
  | node v ts => node (f v (ts.map value)) (mapWithChildrenAll f ts)

/-- The trees of a list with new values. -/
def mapWithChildrenAll (f : α → List α → β) : List (Tree α) → List (Tree β)
  | [] => []
  | t :: ts => t.mapWithChildren f :: mapWithChildrenAll f ts

end

/-- The tree with a new value at each node. -/
def map (f : α → β) (t : Tree α) : Tree β := t.mapWithChildren fun v _ => f v

theorem mapWithChildrenAll_eq_map (f : α → List α → β) (ts : List (Tree α)) :
    mapWithChildrenAll f ts = ts.map (mapWithChildren f) := by
  induction ts with
  | nil => rfl
  | cons t ts ih => simp [mapWithChildrenAll, ih]

@[simp] theorem mapWithChildren_node (f : α → List α → β) (v : α) (ts : List (Tree α)) :
    (node v ts).mapWithChildren f =
      node (f v (ts.map value)) (ts.map (mapWithChildren f)) := by
  rw [mapWithChildren, mapWithChildrenAll_eq_map]

@[simp] theorem map_node (f : α → β) (v : α) (ts : List (Tree α)) :
    (node v ts).map f = node (f v) (ts.map (map f)) := by
  simp [map]

/-! ## Effects -/

mutual

/-- The tree with a new value at each node. A node is visited before its children, and the children
last to first. -/
def mapLastFirst {m : Type → Type} [Monad m] (f : α → m β) : Tree α → m (Tree β)
  | node v ts => do
    let v ← f v
    return node v (← mapLastFirstAll f ts)

/-- The trees of a list with new values, the last tree visited first. -/
def mapLastFirstAll {m : Type → Type} [Monad m] (f : α → m β) :
    List (Tree α) → m (List (Tree β))
  | [] => return []
  | t :: ts => do
    let ts ← mapLastFirstAll f ts
    let t ← t.mapLastFirst f
    return t :: ts

end

end Tree
end EntityGen
