/-
Trees of named values.

A tree has a value at its root, or none, and further trees below it, each under a name. It is a finite map from lists of
names to values: `set` changes what stands at the end of one list of names and nothing else (`value_descend_set`).
-/
import CheckReport.Disk.Path

namespace CheckReport.Disk

/-- named trees, each given by the value at its root and the trees below it -/
inductive Forest (α : Type) where
  | empty
  | cons (name : Name) (value : Option α) (below rest : Forest α)
  deriving DecidableEq, Repr

structure Tree (α : Type) where
  value : Option α
  below : Forest α
  deriving DecidableEq, Repr

variable {α : Type}

namespace Forest

/-- the tree under a name; the empty one if there is none -/
def get (name : Name) : Forest α → Tree α
  | .empty => ⟨none, .empty⟩
  | .cons label value below rest => if label = name then ⟨value, below⟩ else rest.get name

/-- put a tree under a name, in place of the one there or behind all others -/
def set (name : Name) (tree : Tree α) : Forest α → Forest α
  | .empty => .cons name tree.value tree.below .empty
  | .cons label value below rest =>
    if label = name then .cons label tree.value tree.below rest else .cons label value below (rest.set name tree)

theorem get_set (name other : Name) (tree : Tree α) (forest : Forest α) :
    (forest.set name tree).get other = if other = name then tree else forest.get other := by
  obtain ⟨value, below⟩ := tree
  induction forest with
  | empty => grind [get, set]
  | cons => grind [get, set]

/-- the names that have a value, first one first -/
def names : Forest α → List Name
  | .empty => []
  | .cons name value _ rest => if value.isSome then name :: rest.names else rest.names

/-- all values with the names that lead to them from the tree at `dir`, the last name first -/
def values (dir : List Name) : Forest α → List (List Name × α)
  | .empty => []
  | .cons name value below rest =>
    (value.toList.map fun v => (name :: dir, v)) ++ (below.values (name :: dir) ++ rest.values dir)

end Forest

namespace Tree

/-- the tree that the names lead to -/
def descend (tree : Tree α) (names : List Name) : Tree α := names.foldl (fun here name => here.below.get name) tree

/-- put a value, or none, where the names lead to -/
def set (value : Option α) : List Name → Tree α → Tree α
  | [], tree => { tree with value := value }
  | name :: names, tree => { tree with below := tree.below.set name ((tree.below.get name).set value names) }

theorem value_descend_set (value : Option α) (names others : List Name) (tree : Tree α) :
    ((tree.set value names).descend others).value = if others = names then value else (tree.descend others).value := by
  induction names generalizing others tree with
  | nil => cases others <;> rfl
  | cons name names ih =>
    cases others with
    | nil => rfl
    | cons other others =>
      unfold set descend
      rw [List.foldl_cons, List.foldl_cons, Forest.get_set]
      by_cases h : other = name
      · simp only [h, List.cons.injEq, true_and, if_true]
        exact ih others (tree.below.get name)
      · simp only [h, List.cons.injEq, false_and, if_false]

end Tree

end CheckReport.Disk
