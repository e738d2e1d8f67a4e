/-
What stands on a disk, whoever looks.

A mode may keep a user from what a path leads to. On the opened disk no mode keeps anyone from anything, and all else is
the same. A look-up that is not denied ends there as it does on the disk itself; a fault other than a denial thus says
that nothing stands under the path, and not that it is hidden.

- `node?_opened`: the same nodes stand at the same locations, with other modes.
- `stride_opened`: one name of a walk.
- `lookup_opened`: a look-up is denied, or it ends as on the opened disk.
- `stands_of_lookup`, `lookup_of_stands`: what stands under a path is what is found, or kept from the user.
-/
import CheckReport.Proofs.Disk.Entries

namespace CheckReport.Disk

/-! ## Opened disks -/

section Maps

variable {α β : Type} (f : α → β)

/-- the forest with another value in place of each -/
def Forest.map : Forest α → Forest β
  | .empty => .empty
  | .cons name value below rest => .cons name (value.map f) below.map rest.map

def Tree.map (tree : Tree α) : Tree β := ⟨tree.value.map f, tree.below.map f⟩

theorem Forest.get_map (forest : Forest α) (name : Name) : (forest.map f).get name = (forest.get name).map f := by
  induction forest with
  | empty => rfl
  | cons label value below rest _ ih =>
    rw [Forest.map, Forest.get, Forest.get]
    split_ifs with own
    · rfl
    · exact ih

theorem Tree.descend_map (tree : Tree α) (names : List Name) :
    (tree.map f).descend names = (tree.descend names).map f := by
  induction names generalizing tree with
  | nil => rfl
  | cons name names ih =>
    rw [Tree.descend, Tree.descend, List.foldl_cons, List.foldl_cons]
    exact (congrArg (Tree.descend · names) (Forest.get_map f tree.below name)).trans (ih _)

end Maps

/-- the node with all rights for everyone -/
def Node.opened (node : Node) : Node := { node with mode := .ofBits 0o777 }

/-- the disk on which every node is opened -/
def opened (disk : Disk) : Disk := { disk with root := disk.root.map Node.opened }

variable {disk : Disk} {loc : Location} {node : Node}

theorem node?_opened (disk : Disk) (loc : Location) : disk.opened.node? loc = (disk.node? loc).map Node.opened := by
  unfold node? treeAt opened
  rw [Tree.descend_map]
  rfl

theorem rights_opened (node : Node) (user : User) : node.opened.rights user = ⟨true, true, true⟩ := by
  unfold Node.rights
  split_ifs
  · rfl
  · rfl
  · rfl

theorem isDirectory_opened (node : Node) : node.opened.isDirectory = node.isDirectory := rfl

/-! ## One name on both disks -/

def Place.opened : Place → Place
  | .found loc node => .found loc node.opened
  | .missing dir name => .missing dir name

/-- a stride on the opened disk -/
def Stride.opened : Stride disk → Stride disk.opened
  | .stop result => .stop (result.map Place.opened)
  | .go next => .go (Spot.ofLocation next.loc)
  | .jump target => .jump target

theorem searchable_opened (disk : Disk) (start : Location) (name : Name) :
    (Spot.ofLocation start : Spot disk).searchable name = .error .accessDenied ∨
      (Spot.ofLocation start : Spot disk.opened).searchable name =
        (Spot.ofLocation start : Spot disk).searchable name := by
  have here : (Spot.ofLocation start : Spot disk).node? = disk.node? start := Spot.node?_eq _
  have there : (Spot.ofLocation start : Spot disk.opened).node? = (disk.node? start).map Node.opened :=
    (Spot.node?_eq _).trans (node?_opened disk start)
  unfold Spot.searchable
  rw [here, there]
  cases disk.node? start with
  | none => exact Or.inr rfl
  | some node =>
    simp only [Option.map_some, isDirectory_opened, rights_opened, Bool.or_true, if_true]
    split_ifs
    · exact Or.inr rfl
    · exact Or.inr rfl
    · exact Or.inl rfl

theorem enter_opened {aim : Aim} (start : Location) (name : Name) (rest : List Name) :
    enter aim (Spot.ofLocation start : Spot disk.opened) name rest ((disk.node? (name :: start)).map Node.opened) =
      (enter aim (Spot.ofLocation start : Spot disk) name rest (disk.node? (name :: start))).opened := by
  cases disk.node? (name :: start) with
  | none =>
    simp only [Option.map_none, enter]
    split_ifs
    · rfl
    · rfl
  | some node =>
    simp only [Option.map_some, enter]
    rw [show node.opened.content = node.content from rfl]
    cases node.content with
    | link target =>
      simp only
      split_ifs
      · rfl
      · rfl
    | _ =>
      simp only [Spot.down_ofLocation]
      rfl

/-- a stride is denied, or it is the same on both disks -/
theorem stride_opened (disk : Disk) (aim : Aim) (start : Location) (name : Name) (rest : List Name) :
    stride aim (Spot.ofLocation start : Spot disk) name rest = .stop (.error .accessDenied) ∨
      stride aim (Spot.ofLocation start : Spot disk.opened) name rest =
        (stride aim (Spot.ofLocation start : Spot disk) name rest).opened := by
  unfold stride
  rcases searchable_opened disk start name with denied | same
  · rw [denied]
    exact Or.inl rfl
  · refine Or.inr ?_
    rw [same]
    cases (Spot.ofLocation start : Spot disk).searchable name with
    | error fault => rfl
    | ok =>
      simp only
      split_ifs
      · rfl
      · rfl
      · rfl
      · rfl
      · rw [Spot.node?_eq, Spot.node?_eq]
        exact (congrArg (enter aim _ name rest) (node?_opened disk (name :: start))).trans (enter_opened start name rest)

/-! ## Walks on both disks -/

/-- a result on the disk itself, and the one on the opened disk -/
def Opens (result : Except Fault Place) (result' : Except Fault Place) : Prop :=
  result = .error .accessDenied ∨ result' = result.map Place.opened

theorem walkFrom_opened {aim : Aim} {jump : Spot disk → Path → List Name → Except Fault Place}
    {jump' : Spot disk.opened → Path → List Name → Except Fault Place}
    (hjump : ∀ start target rest,
      Opens (jump (Spot.ofLocation start) target rest) (jump' (Spot.ofLocation start) target rest))
    (names : List Name) (start : Location) :
    Opens (walkFrom aim jump (Spot.ofLocation start) names) (walkFrom aim jump' (Spot.ofLocation start) names) := by
  induction names generalizing start with
  | nil =>
    refine Or.inr ?_
    rw [walkFrom, walkFrom, Spot.node?_eq, Spot.node?_eq, node?_opened]
    simp only [Spot.ofLocation]
    cases disk.node? start with
    | none => rfl
    | some node => rfl
  | cons name rest ih =>
    rw [walkFrom_cons, walkFrom_cons]
    rcases stride_opened disk aim start name rest with denied | same
    · rw [denied]
      exact Or.inl rfl
    · rw [same]
      cases stride aim (Spot.ofLocation start : Spot disk) name rest with
      | stop result => exact Or.inr rfl
      | go next =>
        rw [next.eq_ofLocation]
        exact ih next.loc
      | jump target => exact hjump start target rest

theorem walk_opened (aim : Aim) (links : ℕ) (names : List Name) (start : Location) :
    Opens (walk aim links (Spot.ofLocation start : Spot disk) names)
      (walk aim links (Spot.ofLocation start : Spot disk.opened) names) := by
  induction links generalizing names start with
  | zero => exact walkFrom_opened (fun _ _ _ => Or.inr rfl) names start
  | succ links ih =>
    refine walkFrom_opened (fun start target rest => ?_) names start
    split_ifs
    · exact Or.inr rfl
    · rw [Spot.start_ofLocation, Spot.start_ofLocation]
      exact ih _ _

theorem resolve_opened (disk : Disk) (aim : Aim) (path : Path) :
    Opens (disk.resolve aim path) (disk.opened.resolve aim path) := by
  rw [resolve, resolve]
  cases checkPath path with
  | error fault => exact Or.inr rfl
  | ok =>
    simp only
    rw [follow, follow, Spot.start_ofLocation, Spot.start_ofLocation]
    exact walk_opened aim maxLinks path.names _

/-- **A look-up is denied, or it ends as on the opened disk.** -/
theorem lookup_opened (disk : Disk) (aim : Aim) (path : Path) :
    disk.lookup aim path = .error .accessDenied ∨
      disk.opened.lookup aim path = (disk.lookup aim path).map fun (loc, node) => (loc, node.opened) := by
  rw [lookup_eq, lookup_eq]
  rcases resolve_opened disk aim path with denied | same
  · rw [denied]
    exact Or.inl rfl
  · refine Or.inr ?_
    rw [same]
    rcases disk.resolve aim path with fault | ⟨loc, node⟩ | ⟨dir, name⟩
    · rfl
    · rfl
    · rfl

/-! ## What stands under a path -/

/-- a node stands under the path, whether the user may see it or not -/
def Stands (disk : Disk) (path : Path) : Prop := ∃ found, disk.opened.lookup .target path = .ok found

variable {path : Path}

/-- what is found stands there -/
theorem stands_of_lookup (seen : disk.lookup .target path = .ok (loc, node)) : disk.Stands path := by
  rcases lookup_opened disk .target path with denied | same
  · rw [seen] at denied
    cases denied
  · exact ⟨(loc, node.opened), by rw [same, seen]; rfl⟩

/-- **What stands under a path is found, or kept from the user.** -/
theorem lookup_of_stands (stands : disk.Stands path) :
    (∃ found, disk.lookup .target path = .ok found) ∨ disk.lookup .target path = .error .accessDenied := by
  obtain ⟨found, there⟩ := stands
  rcases lookup_opened disk .target path with denied | same
  · exact Or.inr denied
  · refine Or.inl ?_
    cases seen : disk.lookup .target path with
    | error fault =>
      rw [seen, there] at same
      cases same
    | ok here => exact ⟨here, rfl⟩

end CheckReport.Disk
