/-
Where a write goes, and what appending leaves.

A look-up for writing ends at a location: that of the node it found, or the one where a node is missing (`target?`).
What a look-up says of a place is true of the disk, so that appending changes the node at its target and no other, and
puts the new bytes behind those that were there.

- `write_ok`, `append_ok`, `overwrite_ok`: what a write that succeeded has put at its target.
- `bytes_append`, `node?_append`: seen from any location.
-/
import Mathlib.Tactic
import CheckReport.Disk.Operations
import CheckReport.Proofs.Disk.Walk

namespace CheckReport.Disk

open Text.Utf8 (Bytes)

variable {disk : Disk}

/-! ## Contents -/

/-- the location of a place -/
def Place.loc : Place → Location
  | .found loc _ => loc
  | .missing dir name => name :: dir

/-- the bytes of the file at a location, none if there is no file -/
def bytes (disk : Disk) (loc : Location) : Bytes :=
  match (disk.node? loc).map Node.content with
  | some (.file data) => data
  | _ => []

/-- where a write to the path goes -/
def target? (disk : Disk) (path : Path) : Option Location :=
  match disk.resolve .file path with
  | .ok place => some place.loc
  | .error _ => none

theorem bytes_of_node? {disk' : Disk} {loc : Location} (h : disk'.node? loc = disk.node? loc) :
    disk'.bytes loc = disk.bytes loc := by
  rw [bytes, h, bytes]

theorem bytes_put (disk : Disk) (loc other : Location) (node : Node) (data : Bytes) (h : node.content = .file data) :
    (disk.put loc node).bytes other = if other = loc then data else disk.bytes other := by
  rw [bytes, node?_put]
  by_cases he : other = loc
  · rw [if_pos he, if_pos he, Option.map_some, h]
  · rw [if_neg he, if_neg he, bytes]

/-- what a write puts at a location: the file that stood there with other bytes, or a new one where nothing stood -/
structure Rewrites (disk : Disk) (loc : Location) (edit : Bytes → Bytes) (node : Node) : Prop where
  content : node.content = .file (edit (disk.bytes loc))
  rest : (disk.node? loc = none ∧ node = ⟨node.content, .newFile, disk.user, disk.now⟩) ∨
    ∃ old, disk.node? loc = some old ∧ old.isFile = true ∧
      node = { old with content := node.content, modified := disk.now }

namespace Rewrites

variable {loc : Location} {edit : Bytes → Bytes} {node : Node}

theorem modified (rewrites : Rewrites disk loc edit node) : node.modified = disk.now := by
  rcases rewrites.rest with ⟨-, fresh⟩ | ⟨old, -, -, changed⟩
  · rw [fresh]
  · rw [changed]

theorem was (rewrites : Rewrites disk loc edit node) (old : Node) (hn : disk.node? loc = some old) :
    old.isFile = true := by
  rcases rewrites.rest with ⟨missing, -⟩ | ⟨there, stands, file, -⟩
  · rw [missing] at hn
    cases hn
  · rw [stands] at hn
    cases hn
    exact file

end Rewrites

/-- a write that succeeded put a file in the place of its path, or something that keeps no bytes took them -/
theorem write_ok {path : Path} {writing : Writing} (h : (disk.write path writing).1 = .ok ()) :
    (∃ place node, disk.resolve .file path = .ok place ∧ Rewrites disk place.loc writing.edit node ∧
      (disk.write path writing).2 = disk.put place.loc node) ∨
    (writing.onNull = .ok () ∧ (disk.write path writing).2 = disk ∧
      ∃ loc node, disk.resolve .file path = .ok (.found loc node) ∧ node.isFile = false ∧ node.isDirectory = false) := by
  unfold write at h ⊢
  cases hr : disk.resolve .file path with
  | error fault =>
    rw [hr] at h
    cases h
  | ok place =>
    have holds := resolve_holds hr
    rw [hr] at h
    cases place with
    | missing dir name =>
      have blank : disk.bytes (name :: dir) = [] := by
        rw [bytes, holds]
        rfl
      simp only at h ⊢
      split at h
      · rename_i hmay
        rw [if_pos hmay]
        refine Or.inl ⟨_, _, rfl, ⟨?_, Or.inl ⟨holds, rfl⟩⟩, rfl⟩
        rw [Place.loc, blank]
      · cases h
    | found loc node =>
      simp only at h ⊢
      split at h
      · cases h
      rename_i hdir
      split at h
      · cases h
      rename_i hwrite
      rw [if_neg hdir, if_neg hwrite]
      rw [Bool.not_eq_true] at hdir
      have noFile : (∀ data, node.content ≠ .file data) → node.isFile = false := by
        intro other
        unfold Node.isFile
        split
        · rename_i data content
          exact absurd content (other data)
        · rfl
      cases hc : node.content with
      | file old =>
        have old_eq : disk.bytes loc = old := by
          rw [bytes, holds, Option.map_some, hc]
        have file : node.isFile = true := by rw [Node.isFile, hc]
        refine Or.inl ⟨_, _, rfl, ⟨?_, Or.inr ⟨node, holds, file, rfl⟩⟩, rfl⟩
        rw [Place.loc, old_eq]
      | device kind =>
        rw [hc] at h
        cases kind with
        | null => exact Or.inr ⟨h, rfl, loc, node, rfl, noFile (by simp [hc]), hdir⟩
        | full => cases h
      | _ =>
        rw [hc] at h
        exact Or.inr ⟨h, rfl, loc, node, rfl, noFile (by simp [hc]), hdir⟩

/-- an append that succeeded put a file at its target, with the new bytes behind the old ones; the null device takes
none -/
theorem append_ok {path : Path} {data : Bytes} (h : (disk.append path data).1 = .ok ()) :
    ∃ loc node, disk.target? path = some loc ∧ node.content = .file (disk.bytes loc ++ data) ∧
      node.modified = disk.now ∧ (disk.append path data).2 = disk.put loc node := by
  rcases write_ok h with ⟨place, node, hr, rewrites, hput⟩ | ⟨hnull, -⟩
  · have target : disk.target? path = some place.loc := by rw [target?, hr]
    exact ⟨place.loc, node, target, rewrites.content, rewrites.modified, hput⟩
  · cases hnull

/-- what is written in place of what a file held, and what keeps no bytes is as it was -/
theorem overwrite_ok {path : Path} {data : Bytes} (h : (disk.overwrite path data).1 = .ok ()) :
    (∃ place node, disk.resolve .file path = .ok place ∧ Rewrites disk place.loc (fun _ => data) node ∧
      (disk.overwrite path data).2 = disk.put place.loc node) ∨
    ((disk.overwrite path data).2 = disk ∧
      ∃ loc node, disk.resolve .file path = .ok (.found loc node) ∧ node.isFile = false ∧ node.isDirectory = false) := by
  rcases write_ok h with ⟨place, node, hr, rewrites, hput⟩ | ⟨-, same, other⟩
  · exact Or.inl ⟨place, node, hr, rewrites, hput⟩
  · exact Or.inr ⟨same, other⟩

theorem overwrite_error {path : Path} {data : Bytes} {fault : Fault} (h : (disk.overwrite path data).1 = .error fault) :
    (disk.overwrite path data).2 = disk := write_error disk path _ fault h

theorem bytes_append {path : Path} {data : Bytes} (h : (disk.append path data).1 = .ok ()) (loc : Location) :
    (disk.append path data).2.bytes loc = disk.bytes loc ++ if disk.target? path = some loc then data else [] := by
  obtain ⟨target, node, htarget, hcontent, -, hput⟩ := append_ok h
  rw [hput, bytes_put disk target loc node _ hcontent, htarget]
  by_cases he : loc = target
  · rw [if_pos he, if_pos (congrArg some he.symm), he]
  · rw [if_neg he, if_neg fun hs => he (Option.some.inj hs).symm, List.append_nil]

theorem node?_append {path : Path} {data : Bytes} (h : (disk.append path data).1 = .ok ()) {loc : Location}
    (other : disk.target? path ≠ some loc) : (disk.append path data).2.node? loc = disk.node? loc := by
  obtain ⟨target, node, htarget, -, -, hput⟩ := append_ok h
  rw [hput, node?_put, if_neg]
  rintro rfl
  exact other htarget

/-- a file to which something was appended was changed just now -/
theorem modified_append {path : Path} {data : Bytes} (h : (disk.append path data).1 = .ok ()) {loc : Location}
    (own : disk.target? path = some loc) :
    ∃ node, (disk.append path data).2.node? loc = some node ∧ node.modified = disk.now := by
  obtain ⟨target, node, htarget, -, hnow, hput⟩ := append_ok h
  rw [own] at htarget
  cases htarget
  exact ⟨node, by rw [hput, node?_put, if_pos rfl], hnow⟩

end CheckReport.Disk
