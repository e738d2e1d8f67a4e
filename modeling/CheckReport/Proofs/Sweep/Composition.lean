/-
Sweeps one after another.

What is left of a directory answers as before, and lists all but what was taken away. So a second sweep treats what the
first has left as the first would have treated it with the bound of the second, and two sweeps with two bounds do what
one does with the least of them.

- `Lasting`: a directory of which this may be said; `Lasting.later`: and it may be said again of what is left.
- `ofPath_lasting`, `Lasting.faulty`: directories of disks last, with any faults of their entries.
- `Composed`, `Lasting.composed`, `composed_sweepingAt`: two sweeps and one.
- `sweeps_compose`: for any directory that lasts, and for directories of disks.
-/
import CheckReport.Proofs.Disk.Listing
import CheckReport.Proofs.Sweep.Counts
import CheckReport.Proofs.Sweep.Faults

namespace CheckReport.Sweep

open Disk (Fault Name)

variable {σ κ ν : Type} [DecidableEq κ]

/-! ## Directories that last -/

/-- What is assumed of a directory that is swept again: its entries do not depend on each other, an attempt that fails
leaves the world as it was, and what was taken away is no longer listed, while all else is. -/
structure Lasting (directory : Directory σ) (world : σ) (names : List Name) (node? : σ → κ → Option ν)
    (place : Name → κ) : Prop extends Steady directory world names node? place where
  idle : ∀ name before fault, (directory.remove name before).1 = .error fault → (directory.remove name before).2 = before
  listed : ∀ gone, AreFiles directory world names gone → (∀ name ∈ gone, grip directory world name = .taken) →
    gone.Nodup → ∃ left, directory.list (without directory world gone) = .ok (.whole left) ∧
      left.Perm (names.filter (· ∉ gone))

variable {directory : Directory σ} {world : σ} {names : List Name} {node? : σ → κ → Option ν} {place : Name → κ}

namespace Lasting

/-- what was tried and not taken does not matter -/
theorem without_taken (lasting : Lasting directory world names node? place) {done : List Name}
    (files : AreFiles directory world names done) (once : done.Nodup) :
    without directory world done = without directory world (done.filter (grip directory world · = .taken)) := by
  induction done using List.reverseRecOn with
  | nil => rfl
  | append_singleton done name ih =>
    obtain ⟨before, -, disjoint⟩ := List.nodup_append.1 once
    have fresh : name ∉ done := fun mem => disjoint name mem name (List.mem_singleton_self name) rfl
    have earlier : AreFiles directory world names done := fun n mem => files n (List.mem_append_left _ mem)
    have mem : name ∈ names := (files name (List.mem_append_right _ (List.mem_singleton_self name))).1
    -- what is left answers the last attempt as the whole directory does
    have same := lasting.gripped done name earlier mem fresh
    rw [List.filter_append, without_append, without_append, ← ih earlier before]
    by_cases taken : grip directory world name = .taken
    · rw [List.filter_cons_of_pos (by simpa using taken), List.filter_nil]
    · rw [List.filter_cons_of_neg (by simpa using taken), List.filter_nil]
      cases hr : (directory.remove name world).1 with
      | ok => exact absurd ((grip_eq_taken_iff directory world name).2 hr) taken
      | error fault => exact lasting.idle name _ fault (same.trans hr)

variable {gone left : List Name}

/-- what is left answers as before -/
theorem answers_later (lasting : Lasting directory world names node? place) (files : AreFiles directory world names gone)
    {name : Name} (mem : name ∈ names) (fresh : name ∉ gone) :
    SameAnswers directory world directory (without directory world gone) name :=
  ⟨lasting.seen gone name files mem fresh, lasting.gripped gone name files mem fresh⟩

/-- files of what is left are files of the whole -/
theorem areFiles_later (lasting : Lasting directory world names node? place)
    (files : AreFiles directory world names gone) (remain : ∀ name ∈ left, name ∈ names ∧ name ∉ gone) {more : List Name}
    (files' : AreFiles directory (without directory world gone) left more) :
    AreFiles directory world names (gone ++ more) := by
  intro name mem
  rcases List.mem_append.1 mem with mem | mem
  · exact files name mem
  · obtain ⟨listed, sight, hs, hfile⟩ := files' name mem
    obtain ⟨here, fresh⟩ := remain name listed
    rw [(lasting.answers_later files here fresh).1] at hs
    exact ⟨here, sight, hs, hfile⟩

/-- **What is left of a directory that lasts is one again.** -/
theorem later (lasting : Lasting directory world names node? place) (files : AreFiles directory world names gone)
    (taken : ∀ name ∈ gone, grip directory world name = .taken) (once : gone.Nodup)
    (perm : left.Perm (names.filter (· ∉ gone))) :
    Lasting directory (without directory world gone) left node? place := by
  have remain : ∀ name ∈ left, name ∈ names ∧ name ∉ gone := fun name mem => by
    rwa [perm.mem_iff, List.mem_filter, decide_eq_true_iff] at mem
  have whole : ∀ {more}, AreFiles directory (without directory world gone) left more →
      AreFiles directory world names (gone ++ more) := lasting.areFiles_later files remain
  have front : ∀ {name more}, AreFiles directory (without directory world gone) left (name :: more) →
      AreFiles directory world names (name :: (gone ++ more)) ∧ name ∉ gone := by
    intro name more files'
    refine ⟨fun other mem => whole files' other ?_, (remain name (files' name List.mem_cons_self).1).2⟩
    simp only [List.mem_cons, List.mem_append] at mem ⊢
    tauto
  -- what is tried here is tried behind what is gone: each assumption is that about the whole directory, for both lists
  refine { distinct := ?distinct, seen := ?seen, gripped := ?gripped, taken := ?taken, left := ?left,
           idle := lasting.idle, listed := ?listed }
  case distinct => exact perm.nodup_iff.2 (lasting.distinct.filter _)
  case seen =>
    intro more name files' mem fresh
    obtain ⟨here, untouched⟩ := remain name mem
    rw [← without_append, lasting.seen _ name (whole files') here (List.not_mem_append untouched fresh)]
    exact (lasting.answers_later files here untouched).1.symm
  case gripped =>
    intro more name files' mem fresh
    obtain ⟨here, untouched⟩ := remain name mem
    rw [← without_append, lasting.gripped _ name (whole files') here (List.not_mem_append untouched fresh)]
    exact (lasting.answers_later files here untouched).2.symm
  case taken =>
    intro more name files' fresh
    obtain ⟨files'', untouched⟩ := front files'
    rw [← without_append]
    exact lasting.taken _ name files'' (List.not_mem_append untouched fresh)
  case left =>
    intro more name fault files' fresh
    obtain ⟨files'', untouched⟩ := front files'
    rw [← without_append]
    exact lasting.left _ name fault files'' (List.not_mem_append untouched fresh)
  case listed =>
    intro more files' taken' once'
    have gripped : ∀ name ∈ gone ++ more, grip directory world name = .taken := by
      intro name mem
      rcases List.mem_append.1 mem with mem | mem
      · exact taken name mem
      · obtain ⟨here, untouched⟩ := remain name (files' name mem).1
        rw [← lasting.grip_without files here untouched]
        exact taken' name mem
    have distinct : (gone ++ more).Nodup :=
      once.append once' (List.disjoint_left.2 fun name before after => (remain name (files' name after).1).2 before)
    obtain ⟨left', listed, perm'⟩ := lasting.listed (gone ++ more) (whole files') gripped distinct
    refine ⟨left', (without_append directory world gone more) ▸ listed, perm'.trans ?_⟩
    have both : names.filter (· ∉ gone ++ more) = (names.filter (· ∉ gone)).filter (· ∉ more) := by
      rw [List.filter_filter]
      refine List.filter_congr fun name _ => ?_
      simp only [List.mem_append, not_or, Bool.decide_and, Bool.and_comm]
    rw [both]
    exact (perm.filter _).symm

/-! ## Any faults -/

/-- **A faulty directory lasts** as the directory does. -/
theorem faulty (lasting : Lasting directory world names node? place) (stat unlink : Name → Option Fault) :
    Lasting (directory.faulty stat unlink) world names node? place where
  toSteady := lasting.toSteady.faulty stat unlink
  idle name before fault := by
    cases h : unlink name with
    | none =>
      rw [remove_faulty h]
      exact lasting.idle name before fault
    | some other =>
      intro _
      rw [remove_fault h]
  listed gone files taken once := by
    have free : ∀ name ∈ gone, unlink name = none ∧ grip directory world name = .taken := by
      intro name mem
      have yields := (grip_eq_taken_iff _ _ _).1 (taken name mem)
      cases h : unlink name with
      | none =>
        rw [remove_faulty h] at yields
        exact ⟨rfl, (grip_eq_taken_iff _ _ _).2 yields⟩
      | some fault =>
        rw [remove_fault h] at yields
        cases yields
    have all : movable unlink gone = gone := List.filter_eq_self.2 fun name mem => by rw [(free name mem).1]; rfl
    rw [without_faulty, all]
    exact lasting.listed gone (areFiles_of_faulty files) (fun name mem => (free name mem).2) once

end Lasting

/-! ## Directories of a disk -/

section Disks

variable {disk : Disk} {dir : Path} {loc : Disk.Location} {node : Disk.Node}

theorem without_isSound (sound : disk.isSound = true) (done : List Name) :
    (without (Directory.ofPath dir) disk done).isSound = true := by
  induction done using List.reverseRecOn with
  | nil => exact sound
  | append_singleton done name ih =>
    rw [without_append]
    exact Disk.remove_isSound ih _

/-- **A directory of a disk lasts.** -/
theorem ofPath_lasting (sound : disk.isSound = true) (hlook : disk.lookup .target dir = .ok (loc, node))
    (hlist : disk.list dir = .ok names) :
    Lasting (Directory.ofPath dir) disk names Disk.node? (fun name => name :: loc) := by
  obtain ⟨-, once, proper⟩ := Disk.list_of_isSound sound hlist
  have hdir := (Disk.list_eq hlook hlist).1
  have steady := ofPath_steady hlook hdir once proper
  refine { toSteady := steady, idle := fun name before fault => Disk.remove_error before _ fault, listed := ?listed }
  case listed =>
    intro gone files taken distinct
    have thinned := thinned_without hlook hdir proper files
    obtain ⟨left, listed, once', mem'⟩ := Disk.list_alike thinned.alike (without_isSound sound gone) hlook hlist
    refine ⟨left, Directory.ofPath_list_ok listed, (List.perm_ext_iff_of_nodup once' (once.filter _)).2 fun name => ?_⟩
    -- all that is gone was taken, so a name is listed if it was and is not one of them
    have all : gone.filter (grip (Directory.ofPath dir) disk · = .taken) = gone :=
      List.filter_eq_self.2 fun name mem => decide_eq_true (taken name mem)
    have here : name :: loc ∈ gone.map (fun name => name :: loc) ↔ name ∈ gone := by simp
    rw [mem', steady.node?_without files distinct, all, List.mem_filter, Disk.mem_list_iff sound hlook hlist,
      decide_eq_true_iff]
    by_cases h : name ∈ gone
    · rw [if_pos (here.2 h)]
      simp [h]
    · rw [if_neg (mt here.1 h)]
      simp [h]

end Disks

/-! ## A second sweep -/

/-- the least of two bounds -/
def least (a b : Time.Span) : Time.Span := ⟨min a.nanos b.nanos⟩

variable (now : Time.Instant) (a b : Time.Span)

theorem verdict_eq_removed_iff (directory : Directory σ) (world : σ) (name : Name) :
    verdict directory now a world name = .removed ↔
      (∃ sight, directory.inspect name world = .ok sight ∧ sight.isFile = true ∧
        (a.nanos : ℤ) ≤ age now sight.modified) ∧ grip directory world name = .taken := by
  rw [verdict, fate_eq_removed_iff, look_eq_due_iff]

/-- what is removed with the lesser bound is removed -/
theorem verdict_of_le {a b : Time.Span} (h : a.nanos ≤ b.nanos) {name : Name}
    (removed : verdict directory now b world name = .removed) : verdict directory now a world name = .removed := by
  rw [verdict_eq_removed_iff] at removed ⊢
  obtain ⟨⟨sight, hs, hfile, hage⟩, hgrip⟩ := removed
  exact ⟨⟨sight, hs, hfile, by omega⟩, hgrip⟩

/-- with the least of two bounds that is removed which is removed with one of them -/
theorem verdict_least (name : Name) : verdict directory now (least a b) world name = .removed ↔
    verdict directory now a world name = .removed ∨ verdict directory now b world name = .removed := by
  rcases Nat.le_total a.nanos b.nanos with h | h
  · have same : least a b = a := by rw [least, Nat.min_eq_left h]
    rw [same, or_iff_left_of_imp (verdict_of_le now h)]
  · have same : least a b = b := by rw [least, Nat.min_eq_right h]
    rw [same, or_iff_right_of_imp (verdict_of_le now h)]

theorem mem_removedRecords (name : Name) : name ∈ removedRecords directory now a world names ↔
    name ∈ names.filter isRecord ∧ verdict directory now a world name = .removed := by
  rw [removedRecords, List.mem_filter, decide_eq_true_iff]

theorem grip_of_mem_removedRecords : ∀ name ∈ removedRecords directory now a world names,
    grip directory world name = .taken := by
  intro name mem
  exact ((verdict_eq_removed_iff now a directory world name).1 ((mem_removedRecords now a name).1 mem).2).2

theorem areFiles_removedRecords : AreFiles directory world names (removedRecords directory now a world names) := by
  intro name mem
  rw [← dueRecords_taken] at mem
  exact areFiles_dueRecords now a name (List.mem_filter.1 mem).1

namespace Lasting

theorem removedRecords_nodup (lasting : Lasting directory world names node? place) :
    (removedRecords directory now a world names).Nodup := (lasting.distinct.filter _).filter _

/-- a sweep leaves what is left when the removed records are taken away -/
theorem sweeping_eq (lasting : Lasting directory world names node? place)
    (listed : directory.list world = .ok (.whole names)) :
    directory.sweeping now a world =
      (some (.of (verdict directory now a world) (names.filter isRecord)),
        without directory world (removedRecords directory now a world names)) := by
  have once : (dueRecords directory now a world names).Nodup := (lasting.distinct.filter _).filter _
  rw [lasting.toSteady.sweeping_eq now a listed, lasting.without_taken (areFiles_dueRecords now a) once,
    dueRecords_taken]

/-- what a sweep has left lists all that it has not removed, and answers as before -/
theorem left_by_sweeping (lasting : Lasting directory world names node? place)
    (listed : directory.list world = .ok (.whole names)) :
    ∃ left, left.Perm (names.filter (· ∉ removedRecords directory now a world names)) ∧
      directory.list (directory.sweeping now a world).2 = .ok (.whole left) ∧
      Lasting directory (directory.sweeping now a world).2 left node? place ∧
      ∀ name ∈ left, SameAnswers directory world directory (directory.sweeping now a world).2 name := by
  have files : AreFiles directory world names (removedRecords directory now a world names) :=
    areFiles_removedRecords now a
  have taken : ∀ name ∈ removedRecords directory now a world names, grip directory world name = .taken :=
    grip_of_mem_removedRecords now a
  have once := lasting.removedRecords_nodup now a
  obtain ⟨left, listed', perm⟩ := lasting.listed _ files taken once
  rw [lasting.sweeping_eq now a listed]
  refine ⟨left, perm, listed', lasting.later files taken once perm, fun name mem => ?_⟩
  rw [perm.mem_iff, List.mem_filter, decide_eq_true_iff] at mem
  exact lasting.answers_later files mem.1 mem.2

/-- the records that a sweep with the bound `b` removes after one with the bound `a` -/
theorem removed_later {left : List Name}
    (perm : left.Perm (names.filter (· ∉ removedRecords directory now a world names)))
    (answers : ∀ name ∈ left, SameAnswers directory world directory (directory.sweeping now a world).2 name)
    (name : Name) : name ∈ removedRecords directory now b (directory.sweeping now a world).2 left ↔
      name ∈ removedRecords directory now b world names ∧ name ∉ removedRecords directory now a world names := by
  have here : name ∈ left ↔ name ∈ names ∧ name ∉ removedRecords directory now a world names := by
    rw [perm.mem_iff, List.mem_filter, decide_eq_true_iff]
  rw [mem_removedRecords, mem_removedRecords, List.mem_filter, List.mem_filter, here]
  constructor
  · rintro ⟨⟨⟨mem, kept⟩, record⟩, removed⟩
    rw [(answers name (here.2 ⟨mem, kept⟩)).verdict_eq now b] at removed
    exact ⟨⟨⟨mem, record⟩, removed⟩, kept⟩
  · rintro ⟨⟨⟨mem, record⟩, removed⟩, kept⟩
    rw [← (answers name (here.2 ⟨mem, kept⟩)).verdict_eq now b] at removed
    exact ⟨⟨⟨mem, kept⟩, record⟩, removed⟩

/-- both sweeps together remove what one does with the least of the bounds -/
theorem removed_together (lasting : Lasting directory world names node? place) {left : List Name}
    (perm : left.Perm (names.filter (· ∉ removedRecords directory now a world names)))
    (answers : ∀ name ∈ left, SameAnswers directory world directory (directory.sweeping now a world).2 name) :
    (removedRecords directory now a world names).Disjoint
        (removedRecords directory now b (directory.sweeping now a world).2 left) ∧
      (removedRecords directory now a world names ++
        removedRecords directory now b (directory.sweeping now a world).2 left).Perm
          (removedRecords directory now (least a b) world names) := by
  have later := removed_later now a b perm answers
  have disjoint : (removedRecords directory now a world names).Disjoint
      (removedRecords directory now b (directory.sweeping now a world).2 left) :=
    List.disjoint_left.2 fun name first second => ((later name).1 second).2 first
  have once : (removedRecords directory now b (directory.sweeping now a world).2 left).Nodup :=
    ((perm.nodup_iff.2 (lasting.distinct.filter _)).filter _).filter _
  refine ⟨disjoint, (List.perm_ext_iff_of_nodup ((lasting.removedRecords_nodup now a).append once disjoint)
    (lasting.removedRecords_nodup now _)).2 fun name => ?_⟩
  rw [List.mem_append, later, mem_removedRecords, mem_removedRecords, mem_removedRecords, verdict_least]
  tauto

/-- two sweeps leave what one leaves with the least of the bounds -/
theorem node?_together (lasting : Lasting directory world names node? place)
    (listed : directory.list world = .ok (.whole names)) (k : κ) :
    node? (directory.sweeping now b (directory.sweeping now a world).2).2 k =
      node? (directory.sweeping now (least a b) world).2 k := by
  obtain ⟨left, perm, listed', lasting', answers⟩ := lasting.left_by_sweeping now a listed
  obtain ⟨-, together⟩ := lasting.removed_together now a b perm answers
  rw [lasting'.node?_sweeping now b listed', lasting.node?_sweeping now a listed, lasting.node?_sweeping now _ listed]
  have gone := (together.map place).mem_iff (a := k)
  rw [List.map_append, List.mem_append] at gone
  by_cases first : k ∈ (removedRecords directory now a world names).map place
  · rw [if_pos first, ite_self, if_pos (gone.1 (Or.inl first))]
  · rw [if_neg first]
    exact if_congr ((or_iff_right first).symm.trans gone) rfl rfl

/-- what the first sweep has kept is not removed by the second with the same bound -/
theorem records_again {left : List Name}
    (perm : left.Perm (names.filter (· ∉ removedRecords directory now a world names))) :
    (left.filter isRecord).Perm
      ((names.filter isRecord).filter (verdict directory now a world · ≠ .removed)) := by
  have same : (names.filter (· ∉ removedRecords directory now a world names)).filter isRecord =
      (names.filter isRecord).filter (verdict directory now a world · ≠ .removed) := by
    rw [List.filter_filter, List.filter_filter]
    refine List.filter_congr fun name mem => ?_
    rw [Bool.eq_iff_iff]
    simp only [Bool.and_eq_true, decide_eq_true_iff, mem_removedRecords, List.mem_filter]
    tauto
  rw [← same]
  exact perm.filter isRecord

end Lasting

/-! ## Two sweeps and one -/

/-- two sweeps with the bounds `a` and `b`, one after the other, and what they counted; `both` is what a single sweep
counts with the least of the bounds, and `other` what one counts with `b` alone -/
structure Composed {ι : Type} (sweeping : Time.Span → σ → Option (Count ι) × σ) (node? : σ → κ → Option ν) (world : σ)
    (a b : Time.Span) (first second both other : Count ι) : Prop where
  first_eq : (sweeping a world).1 = some first
  second_eq : (sweeping b (sweeping a world).2).1 = some second
  both_eq : (sweeping (least a b) world).1 = some both
  other_eq : (sweeping b world).1 = some other
  /-- the two leave what the single one leaves -/
  single : ∀ k, node? (sweeping b (sweeping a world).2).2 k = node? (sweeping (least a b) world).2 k
  /-- they leave the same in either order -/
  swapped : ∀ k, node? (sweeping b (sweeping a world).2).2 k = node? (sweeping a (sweeping b world).2).2 k
  /-- no record is removed by both, and together they remove what the single one removes -/
  disjoint : first.removed.Disjoint second.removed
  together : (first.removed ++ second.removed).Perm both.removed
  /-- with the same bound, the second removes nothing, and counts all else as the first -/
  again : a = b → second.removed = [] ∧ second.failed = first.failed ∧
    second.scanned + first.removed.length = first.scanned
  /-- what is removed with the greater bound is removed with the lesser one -/
  monotone : a.nanos ≤ b.nanos → other.removed ⊆ first.removed

theorem least_comm : least a b = least b a := by
  rw [least, least, Nat.min_comm]

/-- **Two sweeps and one**, of a directory that lasts. -/
theorem Lasting.composed (lasting : Lasting directory world names node? place)
    (listed : directory.list world = .ok (.whole names)) :
    ∃ first second both other, Composed (directory.sweeping now) node? world a b first second both other := by
  obtain ⟨left, perm, listed', lasting', answers⟩ := lasting.left_by_sweeping now a listed
  obtain ⟨disjoint, together⟩ := lasting.removed_together now a b perm answers
  refine ⟨_, _, _, _, { first_eq := congrArg Prod.fst (lasting.sweeping_eq now a listed)
                        second_eq := congrArg Prod.fst (lasting'.sweeping_eq now b listed')
                        both_eq := congrArg Prod.fst (lasting.sweeping_eq now (least a b) listed)
                        other_eq := congrArg Prod.fst (lasting.sweeping_eq now b listed)
                        single := lasting.node?_together now a b listed
                        swapped := ?swapped
                        disjoint := disjoint
                        together := together
                        again := ?again
                        monotone := ?monotone }⟩
  case swapped =>
    intro k
    rw [lasting.node?_together now a b listed, lasting.node?_together now b a listed, least_comm]
  case again =>
    rintro rfl
    have same : Count.of (verdict directory now a (directory.sweeping now a world).2) (left.filter isRecord) =
        Count.of (verdict directory now a world) (left.filter isRecord) :=
      Count.of_congr fun name mem => (answers name (List.mem_filter.1 mem).1).verdict_eq now a
    rw [same]
    exact Count.of_kept (records_again now a perm)
  case monotone =>
    intro h name mem
    obtain ⟨record, removed⟩ := (mem_removedRecords now b name).1 mem
    exact (mem_removedRecords now a name).2 ⟨record, verdict_of_le now h removed⟩

/-- what a sweep removes it has listed -/
theorem Lasting.removed_listed (lasting : Lasting directory world names node? place)
    (listed : directory.list world = .ok (.whole names)) {count : Count Name}
    (counted : (directory.sweeping now a world).1 = some count) : count.removed ⊆ names := by
  rw [lasting.sweeping_eq now a listed] at counted
  cases counted
  exact (List.filter_sublist.trans List.filter_sublist).subset

/-- the same sweeps, with the removed entries named in another way -/
theorem Composed.map {σ κ ν ι : Type} {sweeping : Time.Span → σ → Option (Count Name) × σ}
    {sweeping' : Time.Span → σ → Option (Count ι) × σ} {node? : σ → κ → Option ν} {world : σ} {a b : Time.Span}
    {first second both other : Count Name} (composed : Composed sweeping node? world a b first second both other)
    (f : Name → ι) (injective : ∀ name ∈ both.removed, ∀ name' ∈ both.removed, f name = f name' → name = name')
    (start : ∀ bound, sweeping' bound world = ((sweeping bound world).1.map (Count.map f), (sweeping bound world).2))
    (later : ∀ bound bound', sweeping' bound' (sweeping bound world).2 =
      ((sweeping bound' (sweeping bound world).2).1.map (Count.map f), (sweeping bound' (sweeping bound world).2).2)) :
    Composed sweeping' node? world a b (first.map f) (second.map f) (both.map f) (other.map f) where
  first_eq := by rw [start, composed.first_eq, Option.map_some]
  second_eq := by rw [start, later, composed.second_eq, Option.map_some]
  both_eq := by rw [start, composed.both_eq, Option.map_some]
  other_eq := by rw [start, composed.other_eq, Option.map_some]
  single k := by
    rw [start, start, later]
    exact composed.single k
  swapped k := by
    rw [start, start, later, later]
    exact composed.swapped k
  disjoint := by
    have mem : ∀ name, name ∈ first.removed ∨ name ∈ second.removed → name ∈ both.removed := fun name h =>
      composed.together.mem_iff.1 (List.mem_append.2 h)
    refine List.disjoint_left.2 fun place hfirst hsecond => ?_
    obtain ⟨name, hname, rfl⟩ := List.mem_map.1 hfirst
    obtain ⟨name', hname', same⟩ := List.mem_map.1 hsecond
    obtain rfl := injective name' (mem name' (Or.inr hname')) name (mem name (Or.inl hname)) same
    exact List.disjoint_left.1 composed.disjoint hname hname'
  together := by
    change (first.removed.map f ++ second.removed.map f).Perm (both.removed.map f)
    rw [← List.map_append]
    exact composed.together.map f
  again same := by
    obtain ⟨removed, failed, scanned⟩ := composed.again same
    refine ⟨List.map_eq_nil_iff.2 removed, failed, ?_⟩
    change second.scanned + (first.removed.map f).length = first.scanned
    rw [List.length_map, scanned]
  monotone h := List.map_subset f (composed.monotone h)

/-- two sweeps of a directory of a disk -/
theorem composed_sweepingAt {disk : Disk} {dir : Path} (sound : disk.isSound = true)
    (hlist : disk.list dir = .ok names) :
    ∃ first second both other, Composed (sweepingAt dir) Disk.node? disk a b first second both other := by
  obtain ⟨⟨loc, node, hlook, -⟩, -, proper⟩ := Disk.list_of_isSound sound hlist
  have lasting := ofPath_lasting sound hlook hlist
  obtain ⟨first, second, both, other, composed⟩ := lasting.composed disk.now a b (Directory.ofPath_list_ok hlist)
  have listed := lasting.removed_listed disk.now (least a b) (Directory.ofPath_list_ok hlist) composed.both_eq
  refine ⟨_, _, _, _, composed.map (fun name => dir.join ⟨name⟩) ?_ (sweepingAt_eq dir · disk) fun bound bound' => ?_⟩
  · intro name hname name' hname'
    exact join_injective (Disk.checkPath_ok (Disk.lookup_found hlook).1).2 proper (listed hname) (listed hname')
  · have cleared := sweep_cleared dir bound disk
    have after : (sweep dir bound disk).2.1 = ((Directory.ofPath dir).sweeping disk.now bound disk).2 :=
      congrArg Prod.snd (sweepingAt_eq dir bound disk)
    rw [sweepingAt_eq, ← after, cleared.now_eq]

/-! ## Main result -/

/-- **Two sweeps do what one does with the least of the bounds**, in either order. For any directory that lasts, at any
time; for a directory of a disk; and for one with any faults of its entries. -/
theorem sweeps_compose (directory : Directory σ) (world : σ) (node? : σ → κ → Option ν) (place : Name → κ) (dir : Path)
    (disk : Disk) (now : Time.Instant) (a b : Time.Span) :
    (∀ names, Lasting directory world names node? place → directory.list world = .ok (.whole names) →
      ∃ first second both other, Composed (directory.sweeping now) node? world a b first second both other) ∧
    (∀ names, disk.isSound = true → disk.list dir = .ok names →
      ∃ first second both other, Composed (sweepingAt dir) Disk.node? disk a b first second both other) ∧
    (∀ names, disk.isSound = true → disk.list dir = .ok names → ∀ stat unlink, ∃ first second both other,
      Composed (((Directory.ofPath dir).faulty stat unlink).sweeping now) Disk.node? disk a b first second both other) := by
  refine ⟨?any, ?ofDisk, ?faulty⟩
  case any =>
    intro names lasting listed
    exact lasting.composed now a b listed
  case ofDisk =>
    intro names sound hlist
    exact composed_sweepingAt a b sound hlist
  case faulty =>
    intro names sound hlist stat unlink
    obtain ⟨⟨loc, node, hlook, -⟩, -, -⟩ := Disk.list_of_isSound sound hlist
    have lasting := (ofPath_lasting sound hlook hlist).faulty stat unlink
    exact lasting.composed now a b (Directory.ofPath_list_ok hlist)

/-- of `yard`, sweeps with the bounds 50 and 40 remove the old record and then the young one, and a second one with the
bound 50 nothing; if the old one is stuck, it fails in both -/
theorem sweeps_compose_yard :
    let dir : Path := ⟨Text.Utf8.encode "/r"⟩
    let old : Path := ⟨Text.Utf8.encode "/r/old.snff"⟩
    let young : Path := ⟨Text.Utf8.encode "/r/new.snff"⟩
    let stuck := (Directory.ofPath dir).faulty (fun _ => none) fun name =>
      if name = Text.Utf8.encode "old.snff" then some .accessDenied else none
    (∃ second, (sweepingAt dir ⟨40⟩ (sweepingAt dir ⟨50⟩ yard).2).1 = some second ∧
      (old :: second.removed).Perm [old, young]) ∧
    (∃ again, (sweepingAt dir ⟨50⟩ (sweepingAt dir ⟨50⟩ yard).2).1 = some again ∧ again.removed = [] ∧
      again.scanned + 1 = 2) ∧
    ∃ again, (stuck.sweeping ⟨100⟩ ⟨50⟩ (stuck.sweeping ⟨100⟩ ⟨50⟩ yard).2).1 = some again ∧ again.failed = 1 := by
  intro dir old young stuck
  have sound : yard.isSound = true := by decide +kernel
  have listed : yard.list dir = .ok (["old.snff", "new.snff", "dir.snff", "ln.snff"].map Text.Utf8.encode) := by
    decide +kernel
  obtain ⟨⟨loc, node, hlook, -⟩, -, -⟩ := Disk.list_of_isSound sound listed
  have counted : (sweepingAt dir ⟨50⟩ yard).1 = some ⟨2, [old], 0⟩ := by decide +kernel
  refine ⟨?least, ?same, ?stuck⟩
  case least =>
    obtain ⟨-, ofDisk, -⟩ := sweeps_compose stuck yard Disk.node? (fun name => name :: loc) dir yard ⟨100⟩ ⟨50⟩ ⟨40⟩
    obtain ⟨first, second, both, _, composed⟩ := ofDisk _ sound listed
    have single : (sweepingAt dir ⟨40⟩ yard).1 = some ⟨2, [old, young], 0⟩ := by decide +kernel
    obtain rfl := Option.some.inj (counted.symm.trans composed.first_eq)
    obtain rfl := Option.some.inj (single.symm.trans composed.both_eq)
    exact ⟨second, composed.second_eq, composed.together⟩
  case same =>
    obtain ⟨-, ofDisk, -⟩ := sweeps_compose stuck yard Disk.node? (fun name => name :: loc) dir yard ⟨100⟩ ⟨50⟩ ⟨50⟩
    obtain ⟨first, again, _, _, composed⟩ := ofDisk _ sound listed
    obtain rfl := Option.some.inj (counted.symm.trans composed.first_eq)
    obtain ⟨removed, -, scanned⟩ := composed.again rfl
    exact ⟨again, composed.second_eq, removed, scanned⟩
  case stuck =>
    obtain ⟨any, -, -⟩ := sweeps_compose stuck yard Disk.node? (fun name => name :: loc) dir yard ⟨100⟩ ⟨50⟩ ⟨50⟩
    obtain ⟨first, again, _, _, composed⟩ :=
      any _ ((ofPath_lasting sound hlook listed).faulty _ _) (Directory.ofPath_list_ok listed)
    have counted' : (stuck.sweeping ⟨100⟩ ⟨50⟩ yard).1 = some ⟨2, [], 1⟩ := by decide +kernel
    obtain rfl := Option.some.inj (counted'.symm.trans composed.first_eq)
    exact ⟨again, composed.second_eq, (composed.again rfl).2.1⟩

end CheckReport.Sweep
