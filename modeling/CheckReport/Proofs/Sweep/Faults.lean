/-
Directories with faults.

Any entry of a directory may be made to fail, when it is looked at, when it is removed, or both. Where the entries of
the directory do not depend on each other, those of the faulty one do not either: an attempt that fails takes nothing
away. The list of a directory may also break off, so that some of its entries are not told.

- `without_faulty`: what is left when entries were tried to be removed, some of which fail.
- `Steady.faulty`: the entries of a faulty directory do not depend on each other.
- `Steady.brokenOff`: nor do those that are told of a directory whose list breaks off.
-/
import CheckReport.Proofs.Sweep.Fates

namespace CheckReport.Sweep

open Disk (Fault Name)

variable {σ κ ν : Type}

/-- the directory with faults of its own at some entries: those that it answers to a look, and those that it answers to
an attempt to remove them -/
def Directory.faulty (directory : Directory σ) (stat unlink : Name → Option Fault) : Directory σ where
  list := directory.list
  inspect name world :=
    match stat name with
    | some fault => .error fault
    | none => directory.inspect name world
  remove name world :=
    match unlink name with
    | some fault => (.error fault, world)
    | none => directory.remove name world

/-- the directory with a list that a fault breaks off behind these names -/
def Directory.brokenOff (directory : Directory σ) (told : List Name) (fault : Fault) : Directory σ where
  list _ := .ok ⟨told, some fault⟩
  inspect := directory.inspect
  remove := directory.remove

variable {directory : Directory σ} {stat unlink : Name → Option Fault} {world : σ} {names done : List Name}
  {name : Name}

section Answers

variable {before : σ}

theorem inspect_faulty (h : stat name = none) :
    (directory.faulty stat unlink).inspect name before = directory.inspect name before := by
  simp only [Directory.faulty, h]

theorem inspect_fault {fault : Fault} (h : stat name = some fault) :
    (directory.faulty stat unlink).inspect name before = .error fault := by
  simp only [Directory.faulty, h]

theorem remove_faulty (h : unlink name = none) :
    (directory.faulty stat unlink).remove name before = directory.remove name before := by
  simp only [Directory.faulty, h]

theorem remove_fault {fault : Fault} (h : unlink name = some fault) :
    (directory.faulty stat unlink).remove name before = (.error fault, before) := by
  simp only [Directory.faulty, h]

end Answers

/-- those of the names of which removing does not fail by itself -/
def movable (unlink : Name → Option Fault) (done : List Name) : List Name :=
  done.filter fun name => (unlink name).isNone

theorem mem_movable : name ∈ movable unlink done ↔ name ∈ done ∧ unlink name = none := by
  rw [movable, List.mem_filter, Option.isNone_iff_eq_none]

theorem without_faulty (done : List Name) : without (directory.faulty stat unlink) world done =
    without directory world (movable unlink done) := by
  induction done using List.reverseRecOn with
  | nil => rfl
  | append_singleton done name ih =>
    rw [without_append, ih]
    change ((directory.faulty stat unlink).remove name _).2 = _
    cases h : unlink name with
    | none =>
      have more : movable unlink (done ++ [name]) = movable unlink done ++ [name] := by simp [movable, h]
      rw [remove_faulty h, more, without_append]
      rfl
    | some fault =>
      have same : movable unlink (done ++ [name]) = movable unlink done := by simp [movable, h]
      rw [remove_fault h, same]

/-- a file that a faulty directory shows is one that the directory shows -/
theorem areFiles_of_faulty (files : AreFiles (directory.faulty stat unlink) world names done) :
    AreFiles directory world names done := by
  intro name mem
  obtain ⟨listed, sight, hs, hfile⟩ := files name mem
  refine ⟨listed, sight, ?_, hfile⟩
  cases h : stat name with
  | none => rwa [inspect_faulty h] at hs
  | some fault =>
    rw [inspect_fault h] at hs
    cases hs

theorem areFiles_movable (files : AreFiles directory world names done) :
    AreFiles directory world names (movable unlink done) :=
  fun name mem => files name (mem_movable.1 mem).1

variable [DecidableEq κ] {node? : σ → κ → Option ν} {place : Name → κ}

/-- **The entries of a faulty directory do not depend on each other.** -/
theorem Steady.faulty (steady : Steady directory world names node? place) (stat unlink : Name → Option Fault) :
    Steady (directory.faulty stat unlink) world names node? place := by
  have earlier : ∀ {done name}, AreFiles directory world names (name :: done) →
      AreFiles directory world names (name :: movable unlink done) := by
    intro done name files other mem
    rcases List.mem_cons.1 mem with rfl | mem
    · exact files other List.mem_cons_self
    · exact files other (List.mem_cons_of_mem _ (mem_movable.1 mem).1)
  have apart : ∀ {done : List Name} {name}, name ∉ done → name ∉ movable unlink done :=
    fun fresh mem => fresh (mem_movable.1 mem).1
  refine { distinct := steady.distinct, seen := ?seen, gripped := ?gripped, taken := ?taken, left := ?left }
  case seen =>
    intro done name files mem fresh
    cases h : stat name with
    | none =>
      rw [inspect_faulty h, inspect_faulty h, without_faulty]
      exact steady.seen _ name (areFiles_movable (areFiles_of_faulty files)) mem (apart fresh)
    | some fault => rw [inspect_fault h, inspect_fault h]
  case gripped =>
    intro done name files mem fresh
    cases h : unlink name with
    | none =>
      rw [remove_faulty h, remove_faulty h, without_faulty]
      exact steady.gripped _ name (areFiles_movable (areFiles_of_faulty files)) mem (apart fresh)
    | some fault => rw [remove_fault h, remove_fault h]
  case taken =>
    intro done name files fresh
    cases h : unlink name with
    | none =>
      rw [remove_faulty h, without_faulty]
      exact steady.taken _ name (earlier (areFiles_of_faulty files)) (apart fresh)
    | some fault =>
      rw [remove_fault h]
      intro yields
      cases yields
  case left =>
    intro done name fault files fresh
    cases h : unlink name with
    | none =>
      rw [remove_faulty h, without_faulty]
      exact steady.left _ name fault (earlier (areFiles_of_faulty files)) (apart fresh)
    | some other =>
      rw [remove_fault h]
      intro _ k
      rfl

/-- **The entries that are told before a list breaks off do not depend on each other.** -/
theorem Steady.brokenOff (steady : Steady directory world names node? place) {told : List Name}
    (sub : told.Sublist names) (fault : Fault) :
    Steady (directory.brokenOff told fault) world told node? place := by
  have files : ∀ {done}, AreFiles (directory.brokenOff told fault) world told done →
      AreFiles directory world names done := by
    intro done files name mem
    obtain ⟨listed, sight⟩ := files name mem
    exact ⟨sub.subset listed, sight⟩
  exact {
    distinct := steady.distinct.sublist sub
    seen := fun done name h mem => steady.seen done name (files h) (sub.subset mem)
    gripped := fun done name h mem => steady.gripped done name (files h) (sub.subset mem)
    taken := fun done name h => steady.taken done name (files h)
    left := fun done name fault h => steady.left done name fault (files h) }

end CheckReport.Sweep
