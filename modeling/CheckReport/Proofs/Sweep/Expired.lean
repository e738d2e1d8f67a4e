/-
A sweep takes away the expired records, and nothing else.

- `ofAnswers_steady`: whatever answers the entries of a directory give, there is a directory that gives them.
- `ofPath_steady`: a directory of a disk is one whose entries do not depend on each other. Its path may lead over links
  and may be swept itself, since only regular files are taken away and none of them is on the way.
- `expired_removed`: what a sweep does, for every directory and for a directory of a disk.
-/
import CheckReport.Proofs.Disk.Append
import CheckReport.Proofs.Disk.Entries
import CheckReport.Proofs.Sweep.Faults

namespace CheckReport.Sweep

open Disk (Alike Location Name Node)

/-! ## Any answers -/

/-- a directory whose entries give fixed answers; the world is the list of those that are left -/
def Directory.ofAnswers (names : List Name) (inspect : Name → Except Disk.Fault Sight)
    (remove : Name → Except Disk.Fault Unit) : Directory (List Name) where
  list _ := .ok (.whole names)
  inspect name _ := inspect name
  remove name left := (remove name, if (remove name).isOk then left.filter (· ≠ name) else left)

theorem ofAnswers_steady {names : List Name} (distinct : names.Nodup) (inspect : Name → Except Disk.Fault Sight)
    (remove : Name → Except Disk.Fault Unit) (left : List Name) :
    Steady (Directory.ofAnswers names inspect remove) left names
      (fun left name => if name ∈ left then some () else none) id where
  distinct := distinct
  seen _ _ _ _ _ := rfl
  gripped _ _ _ _ _ := rfl
  taken done name _ _ h k := by
    have yields : (remove name).isOk = true := congrArg Except.isOk h
    set before := without (Directory.ofAnswers names inspect remove) left done
    have after : ((Directory.ofAnswers names inspect remove).remove name before).2 = before.filter (· ≠ name) :=
      if_pos yields
    simp only [after, List.mem_filter, decide_eq_true_iff, id_eq]
    by_cases hk : k = name
    · rw [if_pos hk, if_neg fun hm => hm.2 hk]
    · rw [if_neg hk]
      exact if_congr (and_iff_left hk) rfl rfl
  left done name fault _ _ h k := by
    have yieldsNot : ¬ (remove name).isOk = true := by
      have hr : remove name = .error fault := h
      rw [hr]
      exact Bool.false_ne_true
    set before := without (Directory.ofAnswers names inspect remove) left done
    have after : ((Directory.ofAnswers names inspect remove).remove name before).2 = before := if_neg yieldsNot
    rw [after]

/-! ## Directories of a disk -/

variable {disk : Disk} {dir : Path} {loc : Location}

/-- a disk from which some regular files of the directory at a location may have been taken, and nothing else -/
structure Thinned (disk : Disk) (loc : Location) (done : List Name) (after : Disk) : Prop where
  user_eq : after.user = disk.user
  workingDirectory_eq : after.workingDirectory = disk.workingDirectory
  kept : ∀ place, after.node? place = disk.node? place ∨
    ∃ name ∈ done, place = name :: loc ∧ ∃ node, disk.node? place = some node ∧ node.isFile = true

namespace Thinned

variable {done : List Name} {after : Disk}

theorem alike (h : Thinned disk loc done after) : Alike disk after where
  user_eq := h.user_eq
  workingDirectory_eq := h.workingDirectory_eq
  kept place node hn hf := by
    rcases h.kept place with same | ⟨-, -, -, file, hfile, hisFile⟩
    · rw [same, hn]
    · rw [hn] at hfile
      cases hfile
      rw [hf] at hisFile
      cases hisFile

theorem node?_of_notMem (h : Thinned disk loc done after) {name : Name} (fresh : name ∉ done) :
    after.node? (name :: loc) = disk.node? (name :: loc) := by
  rcases h.kept (name :: loc) with same | ⟨gone, hgone, hplace, -⟩
  · exact same
  · cases hplace
    exact absurd hgone fresh

theorem mayChange_eq (h : Thinned disk loc done after) {node : Node} (hn : disk.node? loc = some node)
    (hdir : node.isDirectory = true) : after.mayChange loc = disk.mayChange loc := by
  rw [Disk.mayChange, Disk.mayChange, h.alike.kept loc node hn (Disk.isFile_of_isDirectory hdir), hn, h.user_eq]

/-- what is left of a directory answers for its entries as before -/
theorem entry_eq (h : Thinned disk loc done after) {node : Node} (hn : disk.node? loc = some node)
    (hdir : node.isDirectory = true) {name : Name} (fresh : name ∉ done) :
    after.entry loc name = disk.entry loc name := by
  have kept := h.alike.kept loc node hn (Disk.isFile_of_isDirectory hdir)
  have searched : (Disk.Spot.ofLocation loc : Disk.Spot after).searchable name =
      (Disk.Spot.ofLocation loc : Disk.Spot disk).searchable name := by
    unfold Disk.Spot.searchable
    rw [Disk.Spot.node?_eq, Disk.Spot.node?_eq]
    simp only [Disk.Spot.ofLocation, kept, hn, h.user_eq]
  rw [Disk.entry, Disk.entry, searched, h.node?_of_notMem fresh]

end Thinned

variable {node : Node} {names : List Name}

/-- a regular file that an entry shows is a node of the directory -/
theorem node?_of_inspect (hlook : disk.lookup .target dir = .ok (loc, node)) {name : Name}
    (proper : Disk.isEntryName name = true) {sight : Sight} (h : (Directory.ofPath dir).inspect name disk = .ok sight) :
    ∃ child, disk.node? (name :: loc) = some child ∧ child.isFile = sight.isFile := by
  unfold Directory.ofPath at h
  simp only at h
  split at h
  · cases h
  · rename_i place child hfound
    cases h
    exact ⟨child, (Disk.lookup_join_ok proper hlook hfound).2, rfl⟩

theorem thinned_without (hlook : disk.lookup .target dir = .ok (loc, node)) (hdir : node.isDirectory = true)
    (proper : ∀ name ∈ names, Disk.isEntryName name = true) {done : List Name}
    (files : AreFiles (Directory.ofPath dir) disk names done) :
    Thinned disk loc done (without (Directory.ofPath dir) disk done) := by
  induction done using List.reverseRecOn with
  | nil => exact ⟨rfl, rfl, fun _ => Or.inl rfl⟩
  | append_singleton done name ih =>
    have earlier := ih fun n hn => files n (List.mem_append_left _ hn)
    obtain ⟨mem, sight, hs, hfile⟩ := files name (List.mem_append_right _ (List.mem_singleton_self _))
    obtain ⟨child, hchild, hisFile⟩ := node?_of_inspect hlook (proper name mem) hs
    rw [without_append]
    set before := without (Directory.ofPath dir) disk done
    change Thinned disk loc (done ++ [name]) (before.remove (dir.join ⟨name⟩)).2
    cases hr : (before.remove (dir.join ⟨name⟩)).1 with
    | error fault =>
      rw [Disk.remove_error before _ fault hr]
      refine ⟨earlier.user_eq, earlier.workingDirectory_eq, fun place => ?_⟩
      rcases earlier.kept place with same | ⟨gone, hgone, file⟩
      · exact Or.inl same
      · exact Or.inr ⟨gone, List.mem_append_left _ hgone, file⟩
    | ok =>
      obtain ⟨place, child', hfound, hafter⟩ := Disk.remove_ok hr
      have there := Disk.lookup_kept earlier.alike (Disk.isFile_of_isDirectory hdir) hlook
      obtain ⟨rfl, -⟩ := Disk.lookup_join_ok (proper name mem) there hfound
      rw [hafter]
      refine ⟨earlier.user_eq, earlier.workingDirectory_eq, fun place => ?_⟩
      rw [Disk.node?_erase]
      by_cases hplace : place = name :: loc
      · rw [if_pos hplace]
        refine Or.inr ⟨name, by simp, hplace, child, ?_, hisFile.trans hfile⟩
        rw [hplace, hchild]
      · rw [if_neg hplace]
        rcases earlier.kept place with same | ⟨gone, hgone, file⟩
        · exact Or.inl same
        · exact Or.inr ⟨gone, List.mem_append_left _ hgone, file⟩

namespace Thinned

variable {done : List Name} {after : Disk}

/-- what is left of a directory is looked up as before -/
theorem lookup_eq (h : Thinned disk loc done after) (hlook : disk.lookup .target dir = .ok (loc, node))
    (hdir : node.isDirectory = true) {name : Name} (proper : Disk.isEntryName name = true) (fresh : name ∉ done) :
    after.lookup .entry (dir.join ⟨name⟩) = disk.lookup .entry (dir.join ⟨name⟩) := by
  have there := Disk.lookup_kept h.alike (Disk.isFile_of_isDirectory hdir) hlook
  rw [Disk.lookup_join proper there, Disk.lookup_join proper hlook, h.entry_eq (Disk.node?_of_lookup hlook) hdir fresh]

theorem inspect_eq (h : Thinned disk loc done after) (hlook : disk.lookup .target dir = .ok (loc, node))
    (hdir : node.isDirectory = true) {name : Name} (proper : Disk.isEntryName name = true) (fresh : name ∉ done) :
    (Directory.ofPath dir).inspect name after = (Directory.ofPath dir).inspect name disk := by
  simp only [Directory.ofPath, h.lookup_eq hlook hdir proper fresh]

theorem remove_eq (h : Thinned disk loc done after) (hlook : disk.lookup .target dir = .ok (loc, node))
    (hdir : node.isDirectory = true) {name : Name} (proper : Disk.isEntryName name = true) (fresh : name ∉ done) :
    ((Directory.ofPath dir).remove name after).1 = ((Directory.ofPath dir).remove name disk).1 := by
  have allowed := h.mayChange_eq (Disk.node?_of_lookup hlook) hdir
  simp only [Directory.ofPath, Disk.remove, h.lookup_eq hlook hdir proper fresh]
  cases hl : disk.lookup .entry (dir.join ⟨name⟩) with
  | error fault => rfl
  | ok entry =>
    obtain ⟨place, child⟩ := entry
    obtain ⟨rfl, -⟩ := Disk.lookup_join_ok proper hlook hl
    simp only [List.tail_cons, allowed]
    by_cases hmay : disk.mayChange loc = true
    · by_cases hd : child.isDirectory = true <;> simp [hmay, hd]
    · simp [hmay]

end Thinned

/-- **The entries of a directory of a disk do not depend on each other.** -/
theorem ofPath_steady (hlook : disk.lookup .target dir = .ok (loc, node)) (hdir : node.isDirectory = true)
    (distinct : names.Nodup) (proper : ∀ name ∈ names, Disk.isEntryName name = true) :
    Steady (Directory.ofPath dir) disk names Disk.node? (fun name => name :: loc) := by
  refine { distinct := distinct, seen := ?seen, gripped := ?gripped, taken := ?taken, left := ?left }
  case seen =>
    intro done name files mem fresh
    exact (thinned_without hlook hdir proper files).inspect_eq hlook hdir (proper name mem) fresh
  case gripped =>
    intro done name files mem fresh
    exact (thinned_without hlook hdir proper files).remove_eq hlook hdir (proper name mem) fresh
  case taken =>
    intro done name files fresh hr k
    have earlier : AreFiles (Directory.ofPath dir) disk names done := fun n hn => files n (List.mem_cons_of_mem _ hn)
    have there := Disk.lookup_kept (thinned_without hlook hdir proper earlier).alike (Disk.isFile_of_isDirectory hdir)
      hlook
    obtain ⟨place, child, hfound, hafter⟩ := Disk.remove_ok hr
    obtain ⟨rfl, -⟩ := Disk.lookup_join_ok (proper name (files name List.mem_cons_self).1) there hfound
    exact (congrArg (Disk.node? · k) hafter).trans (Disk.node?_erase _ _ k)
  case left =>
    intro done name fault files fresh hr k
    exact congrArg (Disk.node? · k) (Disk.remove_error _ _ fault hr)

/-- names of entries make different paths in a directory -/
theorem join_injective (hdir : dir.isEmpty = false) (proper : ∀ name ∈ names, Disk.isEntryName name = true)
    {name other : Name} (hname : name ∈ names) (hother : other ∈ names) (h : dir.join ⟨name⟩ = dir.join ⟨other⟩) :
    name = other := by
  have bare : ∀ n ∈ names, Disk.slash ∉ n := fun n hn => ((Disk.isEntryName_iff n).1 (proper n hn)).2.2.2.1
  rw [Path.join_name hdir (bare name hname), Path.join_name hdir (bare other hother)] at h
  cases hs : dir.endsInSlash <;> simpa [hs] using h

/-! ## Any disk -/

/-- nothing is gone from the disk but regular files at least as old as the bound, and nothing has changed -/
structure Cleared (now : Time.Instant) (maxAge : Time.Span) (disk after : Disk) : Prop where
  now_eq : after.now = disk.now
  user_eq : after.user = disk.user
  workingDirectory_eq : after.workingDirectory = disk.workingDirectory
  kept : ∀ loc, after.node? loc = disk.node? loc ∨ after.node? loc = none ∧
    ∃ node, disk.node? loc = some node ∧ node.isFile = true ∧ (maxAge.nanos : ℤ) ≤ age now node.modified

namespace Cleared

variable {now : Time.Instant} {maxAge : Time.Span} {after : Disk}

theorem refl (disk : Disk) : Cleared now maxAge disk disk := ⟨rfl, rfl, rfl, fun _ => Or.inl rfl⟩

theorem trans {mid : Disk} (h : Cleared now maxAge disk mid) (h' : Cleared now maxAge mid after) :
    Cleared now maxAge disk after where
  now_eq := h'.now_eq.trans h.now_eq
  user_eq := h'.user_eq.trans h.user_eq
  workingDirectory_eq := h'.workingDirectory_eq.trans h.workingDirectory_eq
  kept loc := by
    rcases h.kept loc with same | gone
    · rw [← same]
      exact h'.kept loc
    · refine Or.inr ⟨?_, gone.2⟩
      rcases h'.kept loc with same | ⟨gone', -⟩
      · exact same.trans gone.1
      · exact gone'

end Cleared

/-- looking at an entry and removing it are about the same node -/
theorem sweepRecord_cleared (now : Time.Instant) (maxAge : Time.Span) (disk : Disk) (name : Name) :
    Cleared now maxAge disk (sweepRecord (Directory.ofPath dir) now maxAge name disk).2.1 := by
  rw [(sweepRecord_eq (Directory.ofPath dir) now maxAge disk name).2]
  split
  · rename_i hdue
    obtain ⟨sight, hs, hfile, hage⟩ := (look_eq_due_iff _ now maxAge disk name).1 hdue
    change Cleared now maxAge disk (disk.remove (dir.join ⟨name⟩)).2
    cases hr : (disk.remove (dir.join ⟨name⟩)).1 with
    | error fault =>
      rw [Disk.remove_error disk _ fault hr]
      exact Cleared.refl disk
    | ok =>
      obtain ⟨place, node, hfound, hafter⟩ := Disk.remove_ok hr
      have seen : (Directory.ofPath dir).inspect name disk = .ok ⟨node.isFile, node.modified⟩ := by
        simp only [Directory.ofPath, hfound]
      rw [seen] at hs
      cases hs
      rw [hafter]
      refine ⟨rfl, rfl, rfl, fun loc => ?_⟩
      rw [Disk.node?_erase]
      by_cases hloc : loc = place
      · rw [if_pos hloc, hloc]
        exact Or.inr ⟨rfl, node, Disk.node?_of_lookup hfound, hfile, hage⟩
      · rw [if_neg hloc]
        exact Or.inl rfl
  · exact Cleared.refl disk

theorem sweep_snd (dir : Path) (maxAge : Time.Span) (disk : Disk) :
    (sweep dir maxAge disk).2.1 = (sweepNames (Directory.ofPath dir) disk.now maxAge disk).2.1 := by
  unfold sweep
  split <;> simp_all

/-- **A sweep takes away regular files that are due, and nothing else**, whatever the disk and the directory are. -/
theorem sweep_cleared (dir : Path) (maxAge : Time.Span) (disk : Disk) :
    Cleared disk.now maxAge disk (sweep dir maxAge disk).2.1 := by
  rw [sweep_snd]
  unfold sweepNames
  split
  · exact Cleared.refl disk
  · exact Cleared.refl disk
  · exact sweepAll_keeps _ _ Cleared.refl (fun _ _ _ => Cleared.trans) (sweepRecord_cleared disk.now maxAge) _ disk _

/-! ## Main result -/

/-- **The expired records are removed, and nothing else.** For every directory whose entries do not depend on each
other, such as one with any answers at all, and for every directory of a disk, whatever it holds. If the list of a
directory breaks off, the sweep fails, but that is said all the same of the entries that were told before. -/
theorem expired_removed {σ κ ν : Type} [DecidableEq κ] (directory : Directory σ) (world : σ) (node? : σ → κ → Option ν)
    (place : Name → κ) (dir : Path) (disk : Disk) (now : Time.Instant) (maxAge : Time.Span) :
    (∀ names, directory.list world = .ok (.whole names) → Steady directory world names node? place →
      ∃ tally, (sweepNames directory now maxAge world).1 = .ok (some tally) ∧
        Swept directory now maxAge world names node? place tally (sweepNames directory now maxAge world).2.1) ∧
    (∀ names fault, directory.list world = .ok ⟨names, some fault⟩ → Steady directory world names node? place →
      (sweepNames directory now maxAge world).1 = .error fault ∧ ∃ tally,
        Swept directory now maxAge world names node? place tally (sweepNames directory now maxAge world).2.1) ∧
    (directory.list world = .error .notFound → sweepNames directory now maxAge world = (.ok none, world, [])) ∧
    (∀ fault, fault ≠ .notFound → directory.list world = .error fault →
      sweepNames directory now maxAge world = (.error fault, world, [])) ∧
    (∀ names, disk.isSound = true → disk.list dir = .ok names →
      ∃ loc node tally, disk.lookup .target dir = .ok (loc, node) ∧
        (sweep dir maxAge disk).1 = .ok (Report.ofTally dir disk.now tally) ∧
        (Report.ofTally dir disk.now tally).removed.Nodup ∧
        Swept (Directory.ofPath dir) disk.now maxAge disk names Disk.node? (fun name => name :: loc) tally
          (sweep dir maxAge disk).2.1 ∧
        (sweep dir maxAge disk).2.1.now = disk.now ∧ (sweep dir maxAge disk).2.1.user = disk.user ∧
        (sweep dir maxAge disk).2.1.workingDirectory = disk.workingDirectory) ∧
    (∀ names told fault, disk.isSound = true → disk.list dir = .ok names → told.Sublist names →
      (sweepNames ((Directory.ofPath dir).brokenOff told fault) now maxAge disk).1 = .error fault ∧
        ∃ loc node tally, disk.lookup .target dir = .ok (loc, node) ∧
          Swept ((Directory.ofPath dir).brokenOff told fault) now maxAge disk told Disk.node? (fun name => name :: loc)
            tally (sweepNames ((Directory.ofPath dir).brokenOff told fault) now maxAge disk).2.1) ∧
    (disk.list dir = .error .notFound →
      sweep dir maxAge disk = (.ok (Report.ofTally dir disk.now Tally.empty), disk, [])) ∧
    (∀ fault, fault ≠ .notFound → disk.list dir = .error fault →
      sweep dir maxAge disk = (.error (.file fault), disk, [])) := by
  refine ⟨fun names hlist steady => sweepNames_listed now maxAge steady hlist,
    fun names fault hlist steady => sweepNames_broken now maxAge steady hlist, sweepNames_absent now maxAge,
    fun fault present => sweepNames_refused now maxAge present, ?ofDisk, ?broken, ?absent, ?refused⟩
  case ofDisk =>
    intro names sound hlist
    obtain ⟨⟨loc, node, hlook, hdir⟩, distinct, proper⟩ := Disk.list_of_isSound sound hlist
    have steady := ofPath_steady hlook hdir distinct proper
    obtain ⟨tally, hresult, swept⟩ := sweepNames_listed disk.now maxAge steady (Directory.ofPath_list_ok hlist)
    have answer : (sweep dir maxAge disk).1 = .ok (Report.ofTally dir disk.now tally) := by
      unfold sweep
      split <;> simp_all
    have cleared := sweep_cleared dir maxAge disk
    refine ⟨loc, node, tally, hlook, answer, ?_, ?_, cleared.now_eq, cleared.user_eq, cleared.workingDirectory_eq⟩
    · refine swept.removed_nodup.map_on fun name hname other hother => ?_
      exact join_injective (Disk.checkPath_ok (Disk.lookup_found hlook).1).2 proper ((swept.mem_removed name).1 hname).1
        ((swept.mem_removed other).1 hother).1
    · rw [sweep_snd]
      exact swept
  case broken =>
    intro names told fault sound hlist sub
    obtain ⟨⟨loc, node, hlook, hdir⟩, distinct, proper⟩ := Disk.list_of_isSound sound hlist
    have steady := (ofPath_steady hlook hdir distinct proper).brokenOff sub fault
    obtain ⟨failed, tally, swept⟩ := sweepNames_broken now maxAge steady rfl
    exact ⟨failed, loc, node, tally, hlook, swept⟩
  case absent =>
    intro hlist
    unfold sweep
    rw [sweepNames_absent disk.now maxAge (Directory.ofPath_list_error hlist)]
  case refused =>
    intro fault present hlist
    unfold sweep
    rw [sweepNames_refused disk.now maxAge present (Directory.ofPath_list_error hlist)]

/-- a directory with a record that is due, one that cannot be looked at and one that cannot be removed -/
def ruinNames : List Name := ["due.snff", "hidden.snff", "stuck.snff"].map Text.Utf8.encode

def ruin : Directory (List Name) :=
  .ofAnswers ruinNames
    (fun name => if name = Text.Utf8.encode "hidden.snff" then .error .accessDenied else .ok ⟨true, ⟨50⟩⟩)
    (fun name => if name = Text.Utf8.encode "stuck.snff" then .error .accessDenied else .ok ())

/-- a disk at time 100 whose directory `/r` holds an old record, a young one, a directory and a link to the old one -/
def yard : Disk :=
  let owner : Disk.User := ⟨0, 0⟩
  let directory : Node := ⟨.directory, .newDirectory, owner, ⟨0⟩⟩
  let file (time : ℤ) : Option Node := some ⟨.file [], .newFile, owner, ⟨time⟩⟩
  let link : Node := ⟨.link ⟨Text.Utf8.encode "old.snff"⟩, .newFile, owner, ⟨0⟩⟩
  let entries :=
    .cons (Text.Utf8.encode "old.snff") (file 50) .empty (.cons (Text.Utf8.encode "new.snff") (file 51) .empty
      (.cons (Text.Utf8.encode "dir.snff") (some directory) .empty (.cons (Text.Utf8.encode "ln.snff") (some link) .empty
        .empty)))
  ⟨⟨some directory, .cons (Text.Utf8.encode "r") (some directory) entries .empty⟩, [], owner, ⟨100⟩⟩

/-- a list that could not be read to its end -/
def unread : Disk.Fault := .other "Input/output error (os error 5)"

/-- one of three records is removed from the one directory, one of four entries from the other, and that one also if the
list breaks off behind it -/
theorem expired_removed_yard :
    (∃ tally, (sweepNames ruin ⟨100⟩ ⟨50⟩ ruinNames).1 = .ok (some tally) ∧
      Text.Utf8.encode "due.snff" ∈ tally.removed ∧ tally.failed = 2) ∧
    (∃ tally, (sweep ⟨Text.Utf8.encode "/r"⟩ ⟨50⟩ yard).1 = .ok (Report.ofTally ⟨Text.Utf8.encode "/r"⟩ ⟨100⟩ tally) ∧
      Text.Utf8.encode "old.snff" ∈ tally.removed ∧ tally.failed = 0) ∧
    let broken := (Directory.ofPath ⟨Text.Utf8.encode "/r"⟩).brokenOff [Text.Utf8.encode "old.snff"] unread
    (sweepNames broken ⟨100⟩ ⟨50⟩ yard).1 = .error unread ∧
      (sweepNames broken ⟨100⟩ ⟨50⟩ yard).2.1.node? [Text.Utf8.encode "old.snff", Text.Utf8.encode "r"] = none := by
  obtain ⟨any, -, -, -, ofDisk, partly, -, -⟩ := expired_removed ruin ruinNames
    (fun left name => if name ∈ left then some () else none) id ⟨Text.Utf8.encode "/r"⟩ yard ⟨100⟩ ⟨50⟩
  have sound : yard.isSound = true := by decide +kernel
  have listed : yard.list ⟨Text.Utf8.encode "/r"⟩ =
      .ok (["old.snff", "new.snff", "dir.snff", "ln.snff"].map Text.Utf8.encode) := by decide +kernel
  obtain ⟨tally, answer, swept⟩ := any ruinNames rfl (ofAnswers_steady (by decide +kernel) _ _ _)
  obtain ⟨loc, node, tally', -, answer', -, swept', -⟩ := ofDisk _ sound listed
  obtain ⟨failed, loc', node', tally'', found, swept''⟩ := partly _ [Text.Utf8.encode "old.snff"] unread sound listed
    (by decide +kernel)
  refine ⟨⟨tally, answer, ?_, ?_⟩, ⟨tally', answer', ?_, ?_⟩, failed, ?_⟩
  · rw [swept.mem_removed]
    exact ⟨by decide +kernel, ⟨Text.Utf8.encode "due", by decide +kernel, by decide +kernel⟩,
      ⟨⟨true, ⟨50⟩⟩, by decide +kernel, rfl, by decide +kernel⟩, by decide +kernel⟩
  · rw [swept.failed_eq]
    decide +kernel
  · rw [swept'.mem_removed]
    exact ⟨by decide +kernel, ⟨Text.Utf8.encode "old", by decide +kernel, by decide +kernel⟩,
      ⟨⟨true, ⟨50⟩⟩, by decide +kernel, rfl, by decide +kernel⟩, by decide +kernel⟩
  · rw [swept'.failed_eq]
    decide +kernel
  · have place : loc' = [Text.Utf8.encode "r"] := by
      have there : (yard.lookup .target ⟨Text.Utf8.encode "/r"⟩).map Prod.fst = .ok [Text.Utf8.encode "r"] := by
        decide +kernel
      rw [found] at there
      cases there
      rfl
    have gone : Text.Utf8.encode "old.snff" ∈ tally''.removed := (swept''.mem_removed _).2
      ⟨by decide +kernel, ⟨Text.Utf8.encode "old", by decide +kernel, by decide +kernel⟩,
        ⟨⟨true, ⟨50⟩⟩, by decide +kernel, rfl, by decide +kernel⟩, by decide +kernel⟩
    rw [swept''.node?_eq, place, if_pos (List.mem_map_of_mem gone)]

end CheckReport.Sweep
