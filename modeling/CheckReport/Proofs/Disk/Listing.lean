/-
What is listed.

The list of a directory names those entries at which there is a node, each once; only their order is not told by the
nodes. So two disks with the same nodes list a directory with the same names, and from a disk on which an entry was taken
away its name is missing. Removing keeps the names of a disk proper, so that this may be said of it again.

- `remove_isSound`: what is left of a disk has proper names.
- `mem_list_iff`: a name is listed exactly if there is a node.
- `list_alike`: the list of a directory on a disk that differs in regular files only.
- `Reordered.list`: the list on a disk with the same nodes.
-/
import CheckReport.Proofs.Disk.Entries

namespace CheckReport.Disk

/-! ## Forests -/

namespace Forest

variable {α : Type}

theorem mem_labels_set (forest : Forest α) (name other : Name) (tree : Tree α) :
    other ∈ (forest.set name tree).labels ↔ other ∈ forest.labels ∨ other = name := by
  induction forest with
  | empty => simp [set, labels]
  | cons label value below rest _ ih =>
    rw [set]
    by_cases h : label = name
    · simp only [h, if_true, labels, List.mem_cons]
      tauto
    · simp only [if_neg h, labels, List.mem_cons, ih, or_assoc]

theorem isSound_set {forest : Forest α} {name : Name} {tree : Tree α} (sound : forest.isSound = true)
    (proper : isEntryName name = true) (below : tree.below.isSound = true) : (forest.set name tree).isSound = true := by
  induction forest with
  | empty => simp [set, isSound, labels, proper, below]
  | cons label value down rest _ ih =>
    simp only [isSound, Bool.and_eq_true, Bool.not_eq_true', List.contains_eq_mem, decide_eq_false_iff_not] at sound
    obtain ⟨⟨⟨named, fresh⟩, hdown⟩, hrest⟩ := sound
    rw [set]
    by_cases h : label = name
    · simp [h, isSound, proper, below, hrest, h ▸ fresh]
    · have apart : label ∉ (rest.set name tree).labels := by
        rw [mem_labels_set, not_or]
        exact ⟨fresh, h⟩
      simp [if_neg h, isSound, named, apart, hdown, ih hrest]

theorem get_of_notMem {forest : Forest α} {name : Name} (h : name ∉ forest.labels) : forest.get name = ⟨none, .empty⟩ := by
  induction forest with
  | empty => rfl
  | cons label value below rest _ ih =>
    rw [labels, List.mem_cons, not_or] at h
    rw [get, if_neg (Ne.symm h.1), ih h.2]

/-- a name is listed exactly if it has a value -/
theorem mem_names_iff {forest : Forest α} (sound : forest.isSound = true) (name : Name) :
    name ∈ forest.names ↔ (forest.get name).value.isSome = true := by
  induction forest with
  | empty => simp [names, get]
  | cons label value below rest _ ih =>
    simp only [isSound, Bool.and_eq_true, Bool.not_eq_true', List.contains_eq_mem, decide_eq_false_iff_not] at sound
    obtain ⟨⟨⟨-, fresh⟩, -⟩, hrest⟩ := sound
    have once : label ∉ rest.names := fun mem => fresh ((names_sublist rest).subset mem)
    rw [names, get]
    by_cases h : label = name
    · subst h
      cases value with
      | none => simpa using once
      | some value => simp
    · rw [if_neg h, ← ih hrest]
      cases value with
      | none => rfl
      | some value => simp [Ne.symm h]

end Forest

/-! ## Proper names -/

namespace Tree

variable {α : Type}

theorem descend_empty (names : List Name) : (⟨none, .empty⟩ : Tree α).descend names = ⟨none, .empty⟩ := by
  induction names with
  | nil => rfl
  | cons name names ih => exact ih

/-- the names that lead to a value are proper -/
theorem isEntryName_of_descend {tree : Tree α} (sound : tree.below.isSound = true) {names : List Name}
    (h : (tree.descend names).value.isSome = true) : ∀ name ∈ names, isEntryName name = true := by
  induction names generalizing tree with
  | nil => simp
  | cons name names ih =>
    rw [List.forall_mem_cons]
    refine ⟨?_, ih (Forest.get_isSound sound name) h⟩
    by_contra improper
    have nowhere : name ∉ tree.below.labels := fun mem => improper ((Forest.labels_of_isSound sound).2 name mem)
    have none : (tree.descend (name :: names)).value = Option.none := by
      rw [descend, List.foldl_cons, Forest.get_of_notMem nowhere]
      exact congrArg value (descend_empty names)
    rw [none] at h
    cases h

theorem set_isSound {value : Option α} {names : List Name} (proper : ∀ name ∈ names, isEntryName name = true)
    {tree : Tree α} (sound : tree.below.isSound = true) : (tree.set value names).below.isSound = true := by
  induction names generalizing tree with
  | nil => exact sound
  | cons name names ih =>
    obtain ⟨first, rest⟩ := List.forall_mem_cons.1 proper
    exact Forest.isSound_set sound first (ih rest (Forest.get_isSound sound name))

end Tree

variable {disk other : Disk} {dir : Path} {loc : Location} {node : Node} {names : List Name}

/-- **What is left of a disk has proper names.** -/
theorem remove_isSound (sound : disk.isSound = true) (path : Path) : (disk.remove path).2.isSound = true := by
  cases hr : (disk.remove path).1 with
  | error fault =>
    rw [remove_error disk path fault hr]
    exact sound
  | ok =>
    obtain ⟨place, child, found, after⟩ := remove_ok hr
    have stands : (disk.root.descend place.reverse).value.isSome = true := by
      have there : disk.node? place = some child := node?_of_lookup found
      rw [node?, treeAt] at there
      rw [there]
      rfl
    rw [after]
    exact Tree.set_isSound (Tree.isEntryName_of_descend sound stands) sound

/-! ## Lists -/

theorem list_eq (hlook : disk.lookup .target dir = .ok (loc, node)) (hlist : disk.list dir = .ok names) :
    node.isDirectory = true ∧ (node.rights disk.user).read = true ∧ names = (disk.treeAt loc).below.names := by
  unfold list at hlist
  rw [hlook] at hlist
  simp only at hlist
  split_ifs at hlist with hdir hread
  cases hlist
  exact ⟨by simpa using hdir, by simpa using hread, rfl⟩

/-- a name is listed exactly if there is a node -/
theorem mem_list_iff (sound : disk.isSound = true) (hlook : disk.lookup .target dir = .ok (loc, node))
    (hlist : disk.list dir = .ok names) (name : Name) : name ∈ names ↔ (disk.node? (name :: loc)).isSome = true := by
  obtain ⟨-, -, names_eq⟩ := list_eq hlook hlist
  rw [names_eq, Forest.mem_names_iff (treeAt_isSound sound loc), node?, treeAt_cons]

/-- **A directory is listed on a disk that differs in regular files only**, with the names that have a node there. -/
theorem list_alike (alike : Alike disk other) (sound : other.isSound = true)
    (hlook : disk.lookup .target dir = .ok (loc, node)) (hlist : disk.list dir = .ok names) :
    ∃ left, other.list dir = .ok left ∧ left.Nodup ∧
      ∀ name, name ∈ left ↔ (other.node? (name :: loc)).isSome = true := by
  obtain ⟨hdir, hread, -⟩ := list_eq hlook hlist
  have there := lookup_kept alike (isFile_of_isDirectory hdir) hlook
  have listed : other.list dir = .ok (other.treeAt loc).below.names := by
    unfold list
    rw [there, alike.user_eq]
    simp only [hdir, hread, Bool.not_true, Bool.false_eq_true, if_false]
  exact ⟨_, listed, (list_of_isSound sound listed).2.1, mem_list_iff sound there listed⟩

/-- disks with the same nodes; their directories may list them in different orders -/
structure Reordered (disk other : Disk) : Prop where
  now_eq : other.now = disk.now
  user_eq : other.user = disk.user
  workingDirectory_eq : other.workingDirectory = disk.workingDirectory
  node?_eq : ∀ place, other.node? place = disk.node? place

theorem Reordered.alike (same : Reordered disk other) : Alike disk other where
  user_eq := same.user_eq
  workingDirectory_eq := same.workingDirectory_eq
  kept place _ hn _ := (same.node?_eq place).trans hn

theorem Reordered.list (same : Reordered disk other) (sound : disk.isSound = true) (sound' : other.isSound = true)
    (hlist : disk.list dir = .ok names) : ∃ names', other.list dir = .ok names' ∧ names'.Perm names := by
  obtain ⟨⟨loc, _, hlook, -⟩, once, -⟩ := list_of_isSound sound hlist
  obtain ⟨names', listed, once', mem'⟩ := list_alike same.alike sound' hlook hlist
  refine ⟨names', listed, (List.perm_ext_iff_of_nodup once' once).2 fun name => ?_⟩
  rw [mem', same.node?_eq, mem_list_iff sound hlook hlist]

end CheckReport.Disk
