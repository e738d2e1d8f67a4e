/-
What a sweep counts and what it leaves.

Where the entries of a directory do not depend on each other, a sweep is told by the fates that they have alone: its
counts are those of the fates, in the order of the list, and it leaves the world without the entries that were due.

- `of_perm`: fates are counted alike in any order.
- `sweeping_eq`: the counts of a sweep, and the world that it leaves.
- `sweepingAt_eq`: a sweep of a directory of a disk.
-/
import CheckReport.Proofs.Sweep.Expired

namespace CheckReport.Sweep

open Disk (Name)

/-! ## Counts -/

/-- what a sweep tells: how many entries it scanned, which it removed and how many failed -/
structure Count (ι : Type) where
  scanned : ℕ
  removed : List ι
  failed : ℕ
  deriving DecidableEq, Repr

def Tally.count (tally : Tally) : Count Name := ⟨tally.scanned, tally.removed, tally.failed⟩

def Report.count (report : Report) : Count Path := ⟨report.scanned, report.removed, report.failed⟩

namespace Count

/-- the counts of entries with these fates -/
def of (fate : Name → Fate) (names : List Name) : Count Name where
  scanned := names.countP (fate · = .kept) + (names.filter (fate · = .removed)).length + names.countP (fate · = .failed)
  removed := names.filter (fate · = .removed)
  failed := names.countP (fate · = .failed)

/-- the same counts, with the removed entries named in another way -/
def map {ι κ : Type} (f : ι → κ) (count : Count ι) : Count κ := ⟨count.scanned, count.removed.map f, count.failed⟩

/-- counts that differ in the order of the removed entries only -/
structure Similar {ι : Type} (count other : Count ι) : Prop where
  scanned_eq : other.scanned = count.scanned
  removed_perm : other.removed.Perm count.removed
  failed_eq : other.failed = count.failed

theorem Similar.map {ι κ : Type} {count other : Count ι} (h : Similar count other) (f : ι → κ) :
    Similar (count.map f) (other.map f) := ⟨h.scanned_eq, h.removed_perm.map f, h.failed_eq⟩

variable {fate fate' : Name → Fate} {names names' : List Name}

theorem of_congr (h : ∀ name ∈ names, fate' name = fate name) : of fate' names = of fate names := by
  have filtered : names.filter (fate' · = .removed) = names.filter (fate · = .removed) :=
    List.filter_congr fun name mem => by rw [h name mem]
  have counted : ∀ f, names.countP (fate' · = f) = names.countP (fate · = f) := fun f =>
    List.countP_congr fun name mem => by rw [h name mem]
  simp only [of, filtered, counted]

/-- **Fates are counted alike in any order.** -/
theorem of_perm (h : names'.Perm names) : Similar (of fate names) (of fate names') where
  scanned_eq := by
    simp only [of]
    rw [h.countP_eq, h.countP_eq, (h.filter _).length_eq]
  removed_perm := h.filter _
  failed_eq := h.countP_eq _

/-- without the removed entries the others are counted as before -/
theorem of_kept (h : names'.Perm (names.filter (fate · ≠ .removed))) :
    (of fate names').removed = [] ∧ (of fate names').failed = (of fate names).failed ∧
      (of fate names').scanned + (of fate names).removed.length = (of fate names).scanned := by
  have removed : names'.filter (fate · = .removed) = [] := by
    rw [List.filter_eq_nil_iff]
    intro name mem
    rw [h.mem_iff, List.mem_filter, decide_eq_true_iff] at mem
    simpa using mem.2
  have counted : ∀ f, f ≠ .removed → names'.countP (fate · = f) = names.countP (fate · = f) := by
    intro f hf
    rw [h.countP_eq, List.countP_filter]
    refine List.countP_congr fun name _ => ?_
    rw [Bool.and_eq_true, decide_eq_true_iff, decide_eq_true_iff, and_iff_left_of_imp]
    exact fun same => same ▸ hf
  simp only [of, removed, counted .kept (by simp), counted .failed (by simp), List.length_nil, true_and]
  omega

end Count

theorem Tally.count_addAll (fate : Name → Fate) (names : List Name) :
    (Tally.empty.addAll fate names).count = Count.of fate names := by
  have scanned := Tally.scanned_addAll fate .empty names
  have failed := Tally.failed_addAll fate .empty names
  have removed := Tally.removed_addAll fate .empty names
  simp only [Tally.empty, Nat.zero_add, List.nil_append] at scanned failed removed
  simp only [Tally.count, Count.of, Tally.empty, scanned, failed, removed]

/-! ## Sweeps -/

variable {σ σ' κ ν : Type}

/-- the fate of an entry that answers as in this world -/
def verdict (directory : Directory σ) (now : Time.Instant) (maxAge : Time.Span) (world : σ) (name : Name) : Fate :=
  (look directory now maxAge world name).fate (grip directory world name)

/-- an entry gives the same answers to two sweeps -/
def SameAnswers (directory : Directory σ) (world : σ) (directory' : Directory σ') (world' : σ') (name : Name) : Prop :=
  directory'.inspect name world' = directory.inspect name world ∧
    (directory'.remove name world').1 = (directory.remove name world).1

theorem SameAnswers.verdict_eq {directory : Directory σ} {world : σ} {directory' : Directory σ'} {world' : σ'}
    {name : Name} (same : SameAnswers directory world directory' world' name) (now : Time.Instant) (maxAge : Time.Span) :
    verdict directory' now maxAge world' name = verdict directory now maxAge world name := by
  unfold verdict look grip
  rw [same.1, same.2]

/-- the records that a sweep tries to remove -/
def dueRecords (directory : Directory σ) (now : Time.Instant) (maxAge : Time.Span) (world : σ) (names : List Name) :
    List Name :=
  (names.filter isRecord).filter (look directory now maxAge world · = .due)

/-- the records that a sweep removes -/
def removedRecords (directory : Directory σ) (now : Time.Instant) (maxAge : Time.Span) (world : σ) (names : List Name) :
    List Name :=
  (names.filter isRecord).filter (verdict directory now maxAge world · = .removed)

theorem dueRecords_taken (directory : Directory σ) (now : Time.Instant) (maxAge : Time.Span) (world : σ)
    (names : List Name) : (dueRecords directory now maxAge world names).filter (grip directory world · = .taken) =
      removedRecords directory now maxAge world names := by
  rw [dueRecords, removedRecords, List.filter_filter]
  refine List.filter_congr fun name _ => ?_
  simp only [verdict, fate_eq_removed_iff, Bool.decide_and, Bool.and_comm]

/-- sweep a directory; there are no counts if it cannot be listed, and all are zero if it is absent -/
def Directory.sweeping (directory : Directory σ) (now : Time.Instant) (maxAge : Time.Span) (world : σ) :
    Option (Count Name) × σ :=
  match sweepNames directory now maxAge world with
  | (.error _, after, _) => (none, after)
  | (.ok none, after, _) => (some ⟨0, [], 0⟩, after)
  | (.ok (some tally), after, _) => (some tally.count, after)

/-- sweep a directory of a disk -/
def sweepingAt (dir : Path) (maxAge : Time.Span) (disk : Disk) : Option (Count Path) × Disk :=
  ((sweep dir maxAge disk).1.toOption.map Report.count, (sweep dir maxAge disk).2.1)

/-- a sweep of a directory of a disk is one at the disk's time that names what it removed by its path -/
theorem sweepingAt_eq (dir : Path) (maxAge : Time.Span) (disk : Disk) :
    sweepingAt dir maxAge disk =
      (((Directory.ofPath dir).sweeping disk.now maxAge disk).1.map (Count.map fun name => dir.join ⟨name⟩),
        ((Directory.ofPath dir).sweeping disk.now maxAge disk).2) := by
  unfold sweepingAt sweep Directory.sweeping
  rcases sweepNames (Directory.ofPath dir) disk.now maxAge disk with ⟨_ | _ | tally, after, log⟩
  · rfl
  · rfl
  · rfl

variable [DecidableEq κ] {directory : Directory σ} {world : σ} {names : List Name} {node? : σ → κ → Option ν}
  {place : Name → κ} (now : Time.Instant) (maxAge : Time.Span)

theorem areFiles_dueRecords : AreFiles directory world names (dueRecords directory now maxAge world names) := by
  refine areFiles_of_due now maxAge fun name mem => ?_
  unfold dueRecords at mem
  rw [List.mem_filter, List.mem_filter, decide_eq_true_iff] at mem
  exact ⟨mem.1.1, mem.2⟩

/-- **What a sweep counts and what it leaves.** -/
theorem Steady.sweeping_eq (steady : Steady directory world names node? place)
    (listed : directory.list world = .ok (.whole names)) :
    directory.sweeping now maxAge world =
      (some (.of (verdict directory now maxAge world) (names.filter isRecord)),
        without directory world (dueRecords directory now maxAge world names)) := by
  obtain ⟨tally, after⟩ := steady.sweepAll_eq now maxAge (names.filter isRecord) [] Tally.empty
    (fun _ hn => absurd hn List.not_mem_nil) List.filter_sublist.subset (steady.distinct.filter _)
  unfold Directory.sweeping sweepNames
  rw [listed]
  exact Prod.ext (congrArg some ((congrArg Tally.count tally).trans (Tally.count_addAll _ _))) after

/-- nothing is gone but what was removed, and nothing else has changed -/
theorem Steady.node?_sweeping (steady : Steady directory world names node? place)
    (listed : directory.list world = .ok (.whole names)) (k : κ) :
    node? (directory.sweeping now maxAge world).2 k =
      if k ∈ (removedRecords directory now maxAge world names).map place then none else node? world k := by
  have once : (dueRecords directory now maxAge world names).Nodup := (steady.distinct.filter _).filter _
  rw [steady.sweeping_eq now maxAge listed, ← dueRecords_taken]
  exact steady.node?_without (areFiles_dueRecords now maxAge) once k

end CheckReport.Sweep
