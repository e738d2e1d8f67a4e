/-
Disks.

A disk is a tree of nodes, together with the working directory, the user and the time. A location is the list of names
from a node up to the root. `put` and `erase` change one location and no other (`node?_put`, `node?_erase`).
-/
import CheckReport.Disk.Node
import CheckReport.Disk.Tree

namespace CheckReport

/-- the names from a node up to the root, the node's own name first -/
abbrev Disk.Location := List Disk.Name

structure Disk where
  root : Disk.Tree Disk.Node
  workingDirectory : Disk.Location
  user : Disk.User
  now : Time.Instant
  deriving DecidableEq, Repr

namespace Disk

/-- what stands at a location and below -/
def treeAt (disk : Disk) (loc : Location) : Tree Node := disk.root.descend loc.reverse

def node? (disk : Disk) (loc : Location) : Option Node := (disk.treeAt loc).value

/-- take the node at a location away -/
def erase (disk : Disk) (loc : Location) : Disk := { disk with root := disk.root.set none loc.reverse }

/-- put a node at a location, in place of the one there -/
def put (disk : Disk) (loc : Location) (node : Node) : Disk :=
  { disk with root := disk.root.set (some node) loc.reverse }

/-- all nodes with their locations, a directory in front of its entries -/
def nodes (disk : Disk) : List (Location × Node) :=
  (disk.root.value.toList.map fun node => ([], node)) ++ disk.root.below.values []

/-- the path of the working directory -/
def workingPath (disk : Disk) : Path := .ofNames true disk.workingDirectory.reverse

theorem treeAt_cons (disk : Disk) (name : Name) (dir : Location) :
    disk.treeAt (name :: dir) = (disk.treeAt dir).below.get name := by
  rw [treeAt, treeAt, Tree.descend, List.reverse_cons, List.foldl_append]
  rfl

theorem node?_erase (disk : Disk) (loc other : Location) :
    (disk.erase loc).node? other = if other = loc then none else disk.node? other := by
  unfold node? treeAt erase
  simp only [Tree.value_descend_set, List.reverse_inj]

theorem node?_put (disk : Disk) (loc other : Location) (node : Node) :
    (disk.put loc node).node? other = if other = loc then some node else disk.node? other := by
  unfold node? treeAt put
  simp only [Tree.value_descend_set, List.reverse_inj]

end Disk

end CheckReport
