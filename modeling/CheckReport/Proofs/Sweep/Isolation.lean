/-
A sweep treats every entry by itself.

What becomes of an entry hangs on its own two answers and on nothing else: not on where it stands in the list, nor on
how the other entries answer. So two sweeps may go through the entries in different orders, and some entries may answer
differently to one and to the other; all the others are treated alike.

- `sweepAll_fates`: the fates that a sweep gives out are those that it counts.
- `met_eq`: the fate of an entry in a sweep is the one that it would have alone.
- `met_brokenOff`: a list that breaks off makes no difference to the entries that it told before.
- `isolated_of_steady`: two sweeps of entries of which some answer differently.
- `sweep_isolates_entries`: for any directory, for a directory of a disk that is listed in another order, and for one
  with faults.
-/
import CheckReport.Proofs.Disk.Listing
import CheckReport.Proofs.Sweep.Counts
import CheckReport.Proofs.Sweep.Faults

namespace CheckReport.Sweep

open Disk (Fault Name)

variable {σ σ' κ ν : Type}

/-! ## The fates in a sweep -/

section Fates

variable (directory : Directory σ) (now : Time.Instant) (maxAge : Time.Span)

/-- records, each with what became of it when the sweep came to it -/
def fates (world : σ) : List Name → List (Name × Fate)
  | [] => []
  | name :: names =>
    let (fate, after, _) := sweepRecord directory now maxAge name world
    (name, fate) :: fates after names

/-- what became of an entry in the sweep of a directory; nothing if the sweep does not touch it -/
def Directory.met (world : σ) (name : Name) : Option Fate :=
  match directory.list world with
  | .ok listing => (fates directory now maxAge world (listing.names.filter isRecord)).lookup name
  | .error _ => none

/-- what a sweep counts are these fates -/
theorem sweepAll_fates (tally : Tally) (world : σ) (names : List Name) :
    (sweepAll directory now maxAge tally world names).1 =
      (fates directory now maxAge world names).foldl (fun tally (name, fate) => tally.add name fate) tally := by
  induction names generalizing tally world with
  | nil => rfl
  | cons name names ih =>
    rw [sweepAll, fates, List.foldl_cons]
    exact ih _ _

/-- the fate of the last record is that in the world which the sweep of the others has left -/
theorem fates_concat (tally : Tally) (world : σ) (front : List Name) (name : Name) :
    fates directory now maxAge world (front ++ [name]) = fates directory now maxAge world front ++
      [(name, (sweepRecord directory now maxAge name (sweepAll directory now maxAge tally world front).2.1).1)] := by
  induction front generalizing tally world with
  | nil => rfl
  | cons first front ih =>
    rw [List.cons_append, fates, fates, sweepAll, List.cons_append]
    exact congrArg _ (ih _ _)

end Fates

variable [DecidableEq κ] {directory : Directory σ} {directory' : Directory σ'} {world : σ} {world' : σ'}
  {names names' : List Name} {node? : σ → κ → Option ν} {node?' : σ' → κ → Option ν} {place : Name → κ}
  (now : Time.Instant) (maxAge : Time.Span)

theorem Steady.fates_eq (steady : Steady directory world names node? place) {records : List Name}
    (listed : records ⊆ names) (once : records.Nodup) :
    fates directory now maxAge world records =
      records.map fun name => (name, verdict directory now maxAge world name) := by
  induction records using List.reverseRecOn with
  | nil => rfl
  | append_singleton front name ih =>
    have hfront : front ⊆ names := fun n mem => listed (List.mem_append_left _ mem)
    have mem : name ∈ names := listed (List.mem_append_right _ (List.mem_singleton_self name))
    have fresh : name ∉ front := fun h => (List.nodup_append.1 once).2.2 name h name (List.mem_singleton_self _) rfl
    obtain ⟨-, after⟩ := steady.sweepAll_eq now maxAge front [] Tally.empty (fun _ hn => absurd hn List.not_mem_nil)
      hfront (List.nodup_append.1 once).1
    have start : without directory world [] = world := rfl
    rw [start, List.nil_append] at after
    have files : AreFiles directory world names (front.filter (look directory now maxAge world · = .due)) := by
      refine areFiles_of_due now maxAge fun n hn => ?_
      rw [List.mem_filter, decide_eq_true_iff] at hn
      exact ⟨hfront hn.1, hn.2⟩
    have untried : name ∉ front.filter (look directory now maxAge world · = .due) := fun h =>
      fresh (List.mem_filter.1 h).1
    -- what the records in front have left answers for the last one as the start does
    rw [fates_concat directory now maxAge Tally.empty, ih hfront (List.nodup_append.1 once).1, after,
      (sweepRecord_eq directory now maxAge _ name).1, steady.look_without now maxAge files mem untried,
      steady.grip_without files mem untried, List.map_append]
    rfl

/-- the fate of an entry that is told, whether or not the list breaks off behind it -/
theorem Steady.met_told {listing : Listing} (steady : Steady directory world listing.names node? place)
    (listed : directory.list world = .ok listing) (name : Name) : directory.met now maxAge world name =
      if name ∈ listing.names.filter isRecord then some (verdict directory now maxAge world name) else none := by
  unfold Directory.met
  rw [listed]
  simp only
  rw [steady.fates_eq now maxAge List.filter_sublist.subset (steady.distinct.filter _)]
  split_ifs with mem
  · exact List.lookup_graph _ mem
  · rw [List.lookup_eq_none_iff]
    rintro entry hentry
    obtain ⟨other, hother, rfl⟩ := List.mem_map.1 hentry
    rw [bne_iff_ne]
    rintro rfl
    exact mem hother

/-- **The fate of an entry in a sweep** is the one that it would have alone; what has no record's name is not touched. -/
theorem Steady.met_eq (steady : Steady directory world names node? place)
    (listed : directory.list world = .ok (.whole names)) (name : Name) : directory.met now maxAge world name =
      if name ∈ names.filter isRecord then some (verdict directory now maxAge world name) else none :=
  steady.met_told now maxAge listed name

/-- **A list that breaks off spares what it does not tell**, and nothing else. -/
theorem Steady.met_brokenOff (steady : Steady directory world names node? place)
    (listed : directory.list world = .ok (.whole names)) {told : List Name} (sub : told.Sublist names) (fault : Fault)
    (name : Name) : (directory.brokenOff told fault).met now maxAge world name =
      if name ∈ told then directory.met now maxAge world name else none := by
  have listed' : (directory.brokenOff told fault).list world = .ok ⟨told, some fault⟩ := rfl
  have part : (directory.brokenOff told fault).met now maxAge world name =
      if name ∈ told.filter isRecord then some (verdict directory now maxAge world name) else none :=
    (steady.brokenOff sub fault).met_told now maxAge listed' name
  rw [part, steady.met_eq now maxAge listed]
  by_cases mem : name ∈ told
  · simp [mem, sub.subset mem]
  · simp [mem]

/-! ## Two sweeps -/

/-- two sweeps that treat all entries alike but those apart -/
structure Isolated (directory : Directory σ) (world : σ) (directory' : Directory σ') (world' : σ') (now : Time.Instant)
    (maxAge : Time.Span) (node? : σ → κ → Option ν) (node?' : σ' → κ → Option ν) (place : Name → κ)
    (apart : Name → Prop) : Prop where
  /-- both give back counts, the same ones if no entry is apart -/
  returns : ∃ count count', (directory.sweeping now maxAge world).1 = some count ∧
    (directory'.sweeping now maxAge world').1 = some count' ∧ ((∀ name, ¬ apart name) → count.Similar count')
  /-- an entry that is not apart has the same fate in both -/
  met_eq : ∀ name, ¬ apart name → directory'.met now maxAge world' name = directory.met now maxAge world name
  /-- both leave the same at every place but those of the entries apart -/
  node?_eq : ∀ k, (∀ name, apart name → k ≠ place name) →
    node?' (directory'.sweeping now maxAge world').2 k = node? (directory.sweeping now maxAge world).2 k

/-- **Two sweeps treat those entries alike that answer alike**, in whatever order they come to them. -/
theorem isolated_of_steady {apart : Name → Prop} (steady : Steady directory world names node? place)
    (steady' : Steady directory' world' names' node?' place) (listed : directory.list world = .ok (.whole names))
    (listed' : directory'.list world' = .ok (.whole names')) (perm : names'.Perm names)
    (answers : ∀ name ∈ names, ¬ apart name → SameAnswers directory world directory' world' name)
    (start : ∀ k, (∀ name, apart name → k ≠ place name) → node?' world' k = node? world k) :
    Isolated directory world directory' world' now maxAge node? node?' place apart := by
  have same : ∀ name ∈ names.filter isRecord, ¬ apart name →
      verdict directory' now maxAge world' name = verdict directory now maxAge world name := fun name mem h =>
    (answers name (List.mem_filter.1 mem).1 h).verdict_eq now maxAge
  have records : ∀ name, name ∈ names'.filter isRecord ↔ name ∈ names.filter isRecord := fun name =>
    (perm.filter isRecord).mem_iff
  refine { returns := ?returns, met_eq := ?met_eq, node?_eq := ?node?_eq }
  case returns =>
    refine ⟨_, _, congrArg Prod.fst (steady.sweeping_eq now maxAge listed),
      congrArg Prod.fst (steady'.sweeping_eq now maxAge listed'), fun all => ?_⟩
    rw [← Count.of_congr fun name mem => same name mem (all name)]
    exact Count.of_perm (perm.filter isRecord)
  case met_eq =>
    intro name h
    rw [steady.met_eq now maxAge listed, steady'.met_eq now maxAge listed']
    by_cases mem : name ∈ names.filter isRecord
    · rw [if_pos mem, if_pos ((records name).2 mem), same name mem h]
    · rw [if_neg mem, if_neg (mt (records name).1 mem)]
  case node?_eq =>
    intro k away
    rw [steady.node?_sweeping now maxAge listed, steady'.node?_sweeping now maxAge listed']
    refine if_congr ?_ rfl (start k away)
    rw [List.mem_map, List.mem_map]
    refine exists_congr fun name => and_congr_left fun hk => ?_
    -- the place is that of a record which is not apart, and has the same fate in both
    have h : ¬ apart name := fun h => away name h hk.symm
    refine List.mem_filter.trans (Iff.trans ?_ List.mem_filter.symm)
    rw [records]
    refine and_congr_right fun mem => ?_
    rw [same name mem h]

/-! ## Sweeps of a disk -/

variable {disk other : Disk} {dir : Path}

/-- two disks that hold the same nodes answer alike for the entries of a directory -/
theorem sameAnswers_of_reordered (same : Disk.Reordered disk other) {loc : Disk.Location} {node : Disk.Node}
    (hlook : disk.lookup .target dir = .ok (loc, node)) (hdir : node.isDirectory = true) {name : Name}
    (proper : Disk.isEntryName name = true) :
    SameAnswers (Directory.ofPath dir) disk (Directory.ofPath dir) other name := by
  have thinned : Thinned disk loc [] other :=
    ⟨same.user_eq, same.workingDirectory_eq, fun place => Or.inl (same.node?_eq place)⟩
  exact ⟨thinned.inspect_eq hlook hdir proper List.not_mem_nil, thinned.remove_eq hlook hdir proper List.not_mem_nil⟩

theorem isolated_of_reordered (same : Disk.Reordered disk other) (sound : disk.isSound = true)
    (sound' : other.isSound = true) {names : List Name} (hlist : disk.list dir = .ok names) :
    ∃ loc : Disk.Location, Isolated (Directory.ofPath dir) disk (Directory.ofPath dir) other now maxAge Disk.node?
      Disk.node? (fun name => name :: loc) fun _ => False := by
  obtain ⟨⟨loc, node, hlook, hdir⟩, once, proper⟩ := Disk.list_of_isSound sound hlist
  obtain ⟨names', hlist', perm⟩ := same.list sound sound' hlist
  have proper' : ∀ name ∈ names', Disk.isEntryName name = true := fun name mem => proper name (perm.mem_iff.1 mem)
  have there := Disk.lookup_kept same.alike (Disk.isFile_of_isDirectory hdir) hlook
  refine ⟨loc, isolated_of_steady now maxAge (ofPath_steady hlook hdir once proper)
    (ofPath_steady there hdir (perm.nodup_iff.2 once) proper') (Directory.ofPath_list_ok hlist)
    (Directory.ofPath_list_ok hlist') perm ?_ ?_⟩
  · intro name mem _
    exact sameAnswers_of_reordered same hlook hdir (proper name mem)
  · intro k _
    exact same.node?_eq k

/-- a sweep of a disk does not depend on the order in which the directory is listed -/
theorem sweepingAt_reordered (same : Disk.Reordered disk other) (sound : disk.isSound = true)
    (sound' : other.isSound = true) {names : List Name} (hlist : disk.list dir = .ok names) :
    (∃ count count', (sweepingAt dir maxAge disk).1 = some count ∧ (sweepingAt dir maxAge other).1 = some count' ∧
      count.Similar count') ∧ Disk.Reordered (sweepingAt dir maxAge disk).2 (sweepingAt dir maxAge other).2 := by
  obtain ⟨loc, isolated⟩ := isolated_of_reordered disk.now maxAge same sound sound' hlist
  obtain ⟨count, count', hcount, hcount', similar⟩ := isolated.returns
  have cleared := sweep_cleared dir maxAge disk
  have cleared' := sweep_cleared dir maxAge other
  constructor
  · refine ⟨_, _, ?_, ?_, (similar fun _ => not_false).map fun name => dir.join ⟨name⟩⟩
    · rw [sweepingAt_eq, hcount]
      rfl
    · rw [sweepingAt_eq, same.now_eq, hcount']
      rfl
  · refine { now_eq := ?_, user_eq := ?_, workingDirectory_eq := ?_, node?_eq := ?_ }
    · exact (cleared'.now_eq.trans same.now_eq).trans cleared.now_eq.symm
    · exact (cleared'.user_eq.trans same.user_eq).trans cleared.user_eq.symm
    · exact (cleared'.workingDirectory_eq.trans same.workingDirectory_eq).trans cleared.workingDirectory_eq.symm
    · intro place
      rw [sweepingAt_eq, sweepingAt_eq, same.now_eq]
      exact isolated.node?_eq place fun _ h => h.elim

/-- faults of some entries of a directory of a disk leave the others alone -/
theorem isolated_of_faults (sound : disk.isSound = true) {names : List Name} (hlist : disk.list dir = .ok names)
    (stat unlink stat' unlink' : Name → Option Fault) :
    ∃ loc : Disk.Location, Isolated ((Directory.ofPath dir).faulty stat unlink) disk
      ((Directory.ofPath dir).faulty stat' unlink') disk now maxAge Disk.node? Disk.node? (fun name => name :: loc)
      fun name => stat' name ≠ stat name ∨ unlink' name ≠ unlink name := by
  obtain ⟨⟨loc, node, hlook, hdir⟩, once, proper⟩ := Disk.list_of_isSound sound hlist
  have steady := ofPath_steady hlook hdir once proper
  refine ⟨loc, isolated_of_steady now maxAge (steady.faulty stat unlink) (steady.faulty stat' unlink')
    (Directory.ofPath_list_ok hlist) (Directory.ofPath_list_ok hlist) (List.Perm.refl names) ?_ fun _ _ => rfl⟩
  intro name _ h
  rw [not_or, not_not, not_not] at h
  simp only [SameAnswers, Directory.faulty, h.1, h.2, and_self]

/-! ## Main result -/

/-- **A sweep treats every entry by itself**, whatever the bound and the time are. For two directories whose entries do
not depend on each other, listed in any orders, of which some entries answer differently; for two disks that differ in
the order of their lists; and for any two choices of faults of the entries of a directory of a disk. -/
theorem sweep_isolates_entries (directory : Directory σ) (world : σ) (directory' : Directory σ') (world' : σ')
    (node? : σ → κ → Option ν) (node?' : σ' → κ → Option ν) (place : Name → κ) (apart : Name → Prop) (dir : Path)
    (disk : Disk) (now : Time.Instant) (maxAge : Time.Span) :
    (∀ names names', Steady directory world names node? place → Steady directory' world' names' node?' place →
      directory.list world = .ok (.whole names) → directory'.list world' = .ok (.whole names') → names'.Perm names →
      (∀ name ∈ names, ¬ apart name → SameAnswers directory world directory' world' name) →
      (∀ k, (∀ name, apart name → k ≠ place name) → node?' world' k = node? world k) →
      Isolated directory world directory' world' now maxAge node? node?' place apart) ∧
    (∀ other names, Disk.Reordered disk other → disk.isSound = true → other.isSound = true → disk.list dir = .ok names →
      (∃ count count', (sweepingAt dir maxAge disk).1 = some count ∧ (sweepingAt dir maxAge other).1 = some count' ∧
        count.Similar count') ∧ Disk.Reordered (sweepingAt dir maxAge disk).2 (sweepingAt dir maxAge other).2) ∧
    (∀ names, disk.isSound = true → disk.list dir = .ok names → ∀ stat unlink stat' unlink', ∃ loc : Disk.Location,
      Isolated ((Directory.ofPath dir).faulty stat unlink) disk ((Directory.ofPath dir).faulty stat' unlink') disk now
        maxAge Disk.node? Disk.node? (fun name => name :: loc)
        fun name => stat' name ≠ stat name ∨ unlink' name ≠ unlink name) := by
  refine ⟨?any, ?ordered, ?faulty⟩
  case any =>
    intro names names' steady steady' listed listed' perm answers start
    exact isolated_of_steady now maxAge steady steady' listed listed' perm answers start
  case ordered =>
    intro other names same sound sound' hlist
    exact sweepingAt_reordered maxAge same sound sound' hlist
  case faulty =>
    intro names sound hlist stat unlink stat' unlink'
    exact isolated_of_faults now maxAge sound hlist stat unlink stat' unlink'

/-- a disk at time 100 with a directory `/r` in which two files were made, one after the other -/
def pair (first second : Name) : Disk :=
  let owner : Disk.User := ⟨0, 0⟩
  let directory : Disk.Node := ⟨.directory, .newDirectory, owner, ⟨0⟩⟩
  let file : Disk.Node := ⟨.file [], .newFile, owner, ⟨50⟩⟩
  let bare : Disk := ⟨⟨some directory, .cons [0x72] (some directory) .empty .empty⟩, [], owner, ⟨100⟩⟩
  (bare.put [first, [0x72]] file).put [second, [0x72]] file

theorem pair_reordered (first second : Name) : Disk.Reordered (pair first second) (pair second first) where
  now_eq := rfl
  user_eq := rfl
  workingDirectory_eq := rfl
  node?_eq place := by
    simp only [pair, Disk.node?_put]
    split_ifs <;> rfl

/-- the directory of `ruin`, listed backwards, in which the record that was stuck can be removed -/
def mended : Directory (List Name) :=
  .ofAnswers ruinNames.reverse (fun name => ruin.inspect name ruinNames) fun _ => .ok ()

/-- a record that is due beside one that is stuck or not; two records that are listed in either order; and one that is
due beside one that cannot be looked at -/
theorem sweep_isolates_entries_pair :
    let a := Text.Utf8.encode "a.snff"
    let b := Text.Utf8.encode "b.snff"
    let dir : Path := ⟨Text.Utf8.encode "/r"⟩
    let hidden := (Directory.ofPath dir).faulty (fun name => if name = b then some .accessDenied else none)
      fun _ => none
    mended.met ⟨100⟩ ⟨50⟩ ruinNames (Text.Utf8.encode "due.snff") = some .removed ∧
      ((pair a b).list dir = .ok [a, b] ∧ (pair b a).list dir = .ok [b, a] ∧
        Disk.Reordered (sweepingAt dir ⟨50⟩ (pair a b)).2 (sweepingAt dir ⟨50⟩ (pair b a)).2) ∧
      hidden.met ⟨100⟩ ⟨50⟩ (pair a b) b = some .failed ∧ hidden.met ⟨100⟩ ⟨50⟩ (pair a b) a = some .removed := by
  intro a b dir hidden
  have listed : (pair a b).list dir = .ok [a, b] := by decide +kernel
  have sound : (pair a b).isSound = true := by decide +kernel
  obtain ⟨any, ordered, faulty⟩ := sweep_isolates_entries ruin ruinNames mended ruinNames
    (fun left name => if name ∈ left then some () else none) (fun left name => if name ∈ left then some () else none) id
    (· = Text.Utf8.encode "stuck.snff") dir (pair a b) ⟨100⟩ ⟨50⟩
  refine ⟨?_, ⟨listed, by decide +kernel, ?_⟩, by decide +kernel, ?_⟩
  · have isolated := any ruinNames ruinNames.reverse (ofAnswers_steady (by decide +kernel) _ _ _)
      (ofAnswers_steady (by decide +kernel) _ _ _) rfl rfl (List.reverse_perm ruinNames)
      (fun name _ h => ⟨rfl, (if_neg h).symm⟩) fun _ _ => rfl
    rw [isolated.met_eq _ (by decide +kernel)]
    decide +kernel
  · exact (ordered (pair b a) [a, b] (pair_reordered a b) sound (by decide +kernel) listed).2
  · obtain ⟨loc, isolated⟩ := faulty [a, b] sound listed (fun _ => none) (fun _ => none)
      (fun name => if name = b then some .accessDenied else none) fun _ => none
    have other : a ≠ b := by decide +kernel
    rw [isolated.met_eq a (by simp [other])]
    decide +kernel

end CheckReport.Sweep
