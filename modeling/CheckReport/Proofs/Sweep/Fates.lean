/-
What a sweep does to the entries of a directory.

The fate of an entry is decided by two answers, that to a look at it (`Look`) and that to the attempt to remove it
(`Grip`). A sweep changes the directory while it goes on, but the answers that count are those which the entries would
have given before it began: of a directory it is assumed that an entry says the same whatever other files have been
taken away (`Steady`).

- `sweepRecord_eq`: the fate of one entry, and what becomes of the world, said by the two answers.
- `sweepAll_eq`: a sweep gives every entry the fate that it would have alone.
- `sweepNames_listed`: what is taken away, what is counted and what is left, for every directory and all answers.
-/
import Mathlib.Tactic
import CheckReport.Sweep.Report

namespace CheckReport.Sweep

open Disk (Name)

/-! ## Names and ages of records -/

theorem isRecord_iff (name : Name) : isRecord name = true ↔ ∃ stem, stem ≠ [] ∧ name = stem ++ recordSuffix := by
  unfold isRecord
  rw [Bool.and_eq_true, List.isSuffixOf_iff_suffix, decide_eq_true_iff]
  constructor
  · rintro ⟨⟨stem, rfl⟩, hlen⟩
    refine ⟨stem, ?_, rfl⟩
    rintro rfl
    exact lt_irrefl _ hlen
  · rintro ⟨stem, hne, rfl⟩
    refine ⟨List.suffix_append _ _, ?_⟩
    rw [List.length_append]
    have := List.length_pos_of_ne_nil hne
    omega

/-- age of a file in nanoseconds; a file that was changed in the future has none yet -/
def age (now modified : Time.Instant) : ℤ := max 0 (now.nanos - modified.nanos)

theorem expired_iff (now : Time.Instant) (maxAge : Time.Span) (modified : Time.Instant) :
    expired now maxAge modified = true ↔ (maxAge.nanos : ℤ) ≤ age now modified := by
  unfold expired age Time.Instant.since
  rw [decide_eq_true_iff]
  simp only
  omega

/-! ## Two answers of an entry -/

/-- what a look at an entry shows -/
inductive Look where
  | gone
  /-- it cannot be looked at, though it is not gone -/
  | hidden
  /-- no regular file; a link is none, whatever it leads to -/
  | other
  /-- a regular file whose age is below the bound -/
  | young
  /-- a regular file whose age is the bound or more -/
  | due
  deriving DecidableEq, Repr

/-- how the attempt to remove an entry ends -/
inductive Grip where
  | taken
  | gone
  /-- it cannot be removed, though it is not gone -/
  | stuck
  deriving DecidableEq, Repr

/-- what becomes of an entry with these answers; only one that is due is tried to be removed -/
def Look.fate : Look → Grip → Fate
  | .gone, _ => .skipped
  | .hidden, _ => .failed
  | .other, _ => .skipped
  | .young, _ => .kept
  | .due, .taken => .removed
  | .due, .gone => .skipped
  | .due, .stuck => .failed

variable {σ κ ν : Type} [DecidableEq κ] (directory : Directory σ) (now : Time.Instant) (maxAge : Time.Span) (world : σ)

def look (name : Name) : Look :=
  match directory.inspect name world with
  | .error .notFound => .gone
  | .error _ => .hidden
  | .ok sight =>
    if sight.isFile = false then .other else if age now sight.modified < maxAge.nanos then .young else .due

def grip (name : Name) : Grip :=
  match (directory.remove name world).1 with
  | .ok () => .taken
  | .error .notFound => .gone
  | .error _ => .stuck

theorem look_eq_due_iff (name : Name) : look directory now maxAge world name = .due ↔
    ∃ sight, directory.inspect name world = .ok sight ∧ sight.isFile = true ∧
      (maxAge.nanos : ℤ) ≤ age now sight.modified := by
  unfold look
  split
  · simp_all
  · simp_all
  · rename_i sight hs
    rw [hs]
    cases hf : sight.isFile with
    | false => simp [hf]
    | true => simp [hf]

theorem grip_eq_taken_iff (name : Name) :
    grip directory world name = .taken ↔ (directory.remove name world).1 = .ok () := by
  unfold grip
  split <;> simp_all

/-- **The fate of one entry**, and what becomes of the world -/
theorem sweepRecord_eq (name : Name) :
    (sweepRecord directory now maxAge name world).1 =
        (look directory now maxAge world name).fate (grip directory world name) ∧
      (sweepRecord directory now maxAge name world).2.1 =
        if look directory now maxAge world name = .due then (directory.remove name world).2 else world := by
  unfold sweepRecord look
  cases hs : directory.inspect name world with
  | error fault => cases fault <;> exact ⟨rfl, rfl⟩
  | ok sight =>
    cases hf : sight.isFile with
    | false => simp [changed?, hf, Look.fate]
    | true =>
      by_cases he : expired now maxAge sight.modified = true
      · have old := (expired_iff now maxAge sight.modified).1 he
        unfold grip
        rcases hr : directory.remove name world with ⟨result, after⟩
        cases result with
        | ok => simp [changed?, taken?, hf, he, not_lt.2 old, Look.fate]
        | error fault => cases fault <;> simp [changed?, taken?, hf, he, not_lt.2 old, Look.fate]
      · have young := not_le.1 (mt (expired_iff now maxAge sight.modified).2 he)
        simp [changed?, hf, he, young, Look.fate]

/-- **A record that fails is warned about once**, any other not at all. -/
theorem sweepRecord_levels (name : Name) : Log.levels (sweepRecord directory now maxAge name world).2.2 =
    if (sweepRecord directory now maxAge name world).1 = .failed then [.warn] else [] := by
  have seen := Log.levels_failOpen Error.message "sweep::stat" (changed? (directory.inspect name world))
  unfold sweepRecord
  generalize Log.failOpen Error.message "sweep::stat" (changed? (directory.inspect name world)) = looked at seen ⊢
  rcases looked with ⟨_ | _ | modified, log⟩
  · exact seen
  · exact seen
  have quiet : Log.levels log = [] := seen
  by_cases old : expired now maxAge modified = true
  · rcases directory.remove name world with ⟨answer, after⟩
    have tried := Log.levels_failOpen Error.message "sweep::remove" (taken? answer)
    simp only [old, Bool.not_true, Bool.false_eq_true, if_false]
    generalize Log.failOpen Error.message "sweep::remove" (taken? answer) = removed at tried ⊢
    rcases removed with ⟨_ | _ | _, more⟩
    all_goals simpa [quiet] using tried
  · simp [old, quiet]

/-! ## Tallies of many fates -/

namespace Tally

theorem failed_add (tally : Tally) (name : Name) (fate : Fate) :
    (tally.add name fate).failed = tally.failed + if fate = .failed then 1 else 0 := by
  cases fate <;> rfl

/-- the tally with more records, each with its fate -/
def addAll (fate : Name → Fate) (tally : Tally) (names : List Name) : Tally :=
  names.foldl (fun tally name => tally.add name (fate name)) tally

variable (fate : Name → Fate) (tally : Tally) (names : List Name)

theorem removed_addAll : (addAll fate tally names).removed = tally.removed ++ names.filter (fate · = .removed) := by
  induction names generalizing tally with
  | nil => exact (List.append_nil _).symm
  | cons name names ih =>
    rw [addAll, List.foldl_cons]
    refine (ih (tally.add name (fate name))).trans ?_
    cases h : fate name <;> simp [add, h]

theorem failed_addAll : (addAll fate tally names).failed = tally.failed + names.countP (fate · = .failed) := by
  induction names generalizing tally with
  | nil => rfl
  | cons name names ih =>
    rw [addAll, List.foldl_cons]
    refine (ih (tally.add name (fate name))).trans ?_
    cases h : fate name <;> simp [add, h]
    omega

/-- what is scanned was kept, removed or failed -/
theorem scanned_addAll : (addAll fate tally names).scanned = tally.scanned +
    (names.countP (fate · = .kept) + (names.filter (fate · = .removed)).length + names.countP (fate · = .failed)) := by
  induction names generalizing tally with
  | nil => rfl
  | cons name names ih =>
    rw [addAll, List.foldl_cons]
    refine (ih (tally.add name (fate name))).trans ?_
    cases h : fate name <;> simp [add, h] <;> omega

end Tally

/-! ## Directories whose entries do not depend on each other -/

/-- the world after an attempt to remove each of these entries, one after another -/
def without (done : List Name) : σ := done.foldl (fun world name => (directory.remove name world).2) world

theorem without_append (done more : List Name) :
    without directory world (done ++ more) = without directory (without directory world done) more :=
  List.foldl_append ..

/-- entries of the list that are regular files -/
def AreFiles (names done : List Name) : Prop :=
  ∀ name ∈ done, name ∈ names ∧ ∃ sight, directory.inspect name world = .ok sight ∧ sight.isFile = true

/-- What is assumed of a directory with the entries `names`, seen through what the world holds at each place: every name
is listed once, an entry says the same whatever other files were taken away, and to remove a file takes it from its
place and nothing else, or, if that fails, nothing at all. -/
structure Steady (names : List Name) (node? : σ → κ → Option ν) (place : Name → κ) : Prop where
  distinct : names.Nodup
  seen : ∀ done name, AreFiles directory world names done → name ∈ names → name ∉ done →
    directory.inspect name (without directory world done) = directory.inspect name world
  gripped : ∀ done name, AreFiles directory world names done → name ∈ names → name ∉ done →
    (directory.remove name (without directory world done)).1 = (directory.remove name world).1
  taken : ∀ done name, AreFiles directory world names (name :: done) → name ∉ done →
    (directory.remove name (without directory world done)).1 = .ok () → ∀ k,
      node? (directory.remove name (without directory world done)).2 k =
        if k = place name then none else node? (without directory world done) k
  left : ∀ done name fault, AreFiles directory world names (name :: done) → name ∉ done →
    (directory.remove name (without directory world done)).1 = .error fault → ∀ k,
      node? (directory.remove name (without directory world done)).2 k = node? (without directory world done) k

variable {directory world} {names : List Name} {node? : σ → κ → Option ν} {place : Name → κ}

theorem areFiles_of_due {done : List Name}
    (h : ∀ name ∈ done, name ∈ names ∧ look directory now maxAge world name = .due) :
    AreFiles directory world names done := by
  intro name hn
  obtain ⟨hmem, hdue⟩ := h name hn
  obtain ⟨sight, hs, hfile, -⟩ := (look_eq_due_iff directory now maxAge world name).1 hdue
  exact ⟨hmem, sight, hs, hfile⟩

namespace Steady

theorem look_without (steady : Steady directory world names node? place) {done : List Name} {name : Name}
    (files : AreFiles directory world names done) (mem : name ∈ names) (fresh : name ∉ done) :
    look directory now maxAge (without directory world done) name = look directory now maxAge world name := by
  unfold look
  rw [steady.seen done name files mem fresh]

theorem grip_without (steady : Steady directory world names node? place) {done : List Name} {name : Name}
    (files : AreFiles directory world names done) (mem : name ∈ names) (fresh : name ∉ done) :
    grip directory (without directory world done) name = grip directory world name := by
  unfold grip
  rw [steady.gripped done name files mem fresh]

/-- what is left when some files were tried to be removed: all but those that were taken -/
theorem node?_without (steady : Steady directory world names node? place) {done : List Name}
    (files : AreFiles directory world names done) (once : done.Nodup) (k : κ) :
    node? (without directory world done) k =
      if k ∈ (done.filter (grip directory world · = .taken)).map place then none else node? world k := by
  induction done using List.reverseRecOn with
  | nil => rfl
  | append_singleton done name ih =>
    rw [List.nodup_append] at once
    obtain ⟨hdone, -, hdisj⟩ := once
    have fresh : name ∉ done := fun hm => hdisj name hm name (List.mem_singleton_self _) rfl
    have earlier : AreFiles directory world names done := fun n hn => files n (List.mem_append_left _ hn)
    have both : AreFiles directory world names (name :: done) := by
      intro n hn
      rcases List.mem_cons.1 hn with rfl | hn
      · exact files n (List.mem_append_right _ (List.mem_singleton_self _))
      · exact earlier n hn
    have same := steady.gripped done name earlier (both name List.mem_cons_self).1 fresh
    rw [without_append]
    change node? (directory.remove name (without directory world done)).2 k = _
    simp only [List.filter_append, List.map_append, List.mem_append]
    cases hr : (directory.remove name world).1 with
    | ok =>
      have hg : grip directory world name = .taken := (grip_eq_taken_iff directory world name).2 hr
      have last : [name].filter (grip directory world · = .taken) = [name] := by simp [hg]
      rw [steady.taken done name both fresh (same.trans hr), ih earlier hdone]
      simp only [last, List.map_singleton, List.mem_singleton]
      by_cases hk : k = place name
      · rw [if_pos hk, if_pos (Or.inr hk)]
      · rw [if_neg hk]
        exact if_congr (or_iff_left hk).symm rfl rfl
    | error fault =>
      have hg : grip directory world name ≠ .taken := by
        rw [ne_eq, grip_eq_taken_iff, hr]
        simp
      have last : [name].filter (grip directory world · = .taken) = [] := by simp [hg]
      rw [steady.left done name fault both fresh (same.trans hr), ih earlier hdone]
      simp only [last, List.map_nil, List.not_mem_nil, or_false]

/-! ## The loop -/

/-- **Every entry gets the fate that it would have alone.** `done` is what has been tried to be removed so far. -/
theorem sweepAll_eq (steady : Steady directory world names node? place) (rest : List Name) (done : List Name)
    (tally : Tally) (hdone : ∀ name ∈ done, name ∈ names ∧ look directory now maxAge world name = .due)
    (hrest : rest ⊆ names) (once : (done ++ rest).Nodup) :
    (sweepAll directory now maxAge tally (without directory world done) rest).1 =
        tally.addAll (fun name => (look directory now maxAge world name).fate (grip directory world name)) rest ∧
      (sweepAll directory now maxAge tally (without directory world done) rest).2.1 =
        without directory world (done ++ rest.filter (look directory now maxAge world · = .due)) := by
  induction rest generalizing done tally with
  | nil =>
    rw [List.filter_nil, List.append_nil]
    exact ⟨rfl, rfl⟩
  | cons name rest ih =>
    obtain ⟨mem, hrest⟩ := List.cons_subset.1 hrest
    have files : AreFiles directory world names done := areFiles_of_due now maxAge hdone
    have fresh : name ∉ done := fun hm => (List.nodup_append.1 once).2.2 name hm name List.mem_cons_self rfl
    obtain ⟨hfate, hafter⟩ := sweepRecord_eq directory now maxAge (without directory world done) name
    rw [steady.look_without now maxAge files mem fresh, steady.grip_without files mem fresh] at hfate
    rw [steady.look_without now maxAge files mem fresh] at hafter
    rw [sweepAll]
    simp only [hfate, hafter]
    by_cases hdue : look directory now maxAge world name = .due
    · rw [if_pos hdue]
      have step : (directory.remove name (without directory world done)).2 = without directory world (done ++ [name]) :=
        (without_append directory world done [name]).symm
      have once' : ((done ++ [name]) ++ rest).Nodup := by
        rw [List.append_assoc]
        exact once
      have hdone' : ∀ n ∈ done ++ [name], n ∈ names ∧ look directory now maxAge world n = .due := by
        intro n hn
        rcases List.mem_append.1 hn with hn | hn
        · exact hdone n hn
        · rw [List.mem_singleton.1 hn]
          exact ⟨mem, hdue⟩
      rw [step]
      obtain ⟨htally, hlast⟩ := ih (done ++ [name]) (tally.add name _) hdone' hrest once'
      refine ⟨htally, hlast.trans ?_⟩
      rw [List.filter_cons_of_pos (by simpa using hdue), List.append_assoc]
      rfl
    · rw [if_neg hdue]
      have once' : (done ++ rest).Nodup := once.sublist (List.Sublist.append_left (List.sublist_cons_self _ _) _)
      obtain ⟨htally, hlast⟩ := ih done (tally.add name _) hdone hrest once'
      refine ⟨htally, hlast.trans ?_⟩
      rw [List.filter_cons_of_neg (by simpa using hdue)]

end Steady

/-- what every look and removal keeps, a sweep keeps; nothing is assumed of the directory -/
theorem sweepAll_keeps {Kept : σ → σ → Prop} (refl : ∀ world, Kept world world)
    (trans : ∀ world mid after, Kept world mid → Kept mid after → Kept world after)
    (step : ∀ world name, Kept world (sweepRecord directory now maxAge name world).2.1) (tally : Tally) (world : σ)
    (names : List Name) : Kept world (sweepAll directory now maxAge tally world names).2.1 := by
  induction names generalizing tally world with
  | nil => exact refl world
  | cons name names ih => exact trans world _ _ (step world name) (ih _ _)

/-- **As many warnings as failures**, whatever the directory answers. -/
theorem sweepAll_levels (tally : Tally) (world : σ) (names : List Name) :
    List.replicate tally.failed .warn ++ Log.levels (sweepAll directory now maxAge tally world names).2.2 =
      List.replicate (sweepAll directory now maxAge tally world names).1.failed .warn := by
  induction names generalizing tally world with
  | nil => exact List.append_nil _
  | cons name names ih =>
    have first := sweepRecord_levels directory now maxAge world name
    have rest := ih (tally.add name (sweepRecord directory now maxAge name world).1)
      (sweepRecord directory now maxAge name world).2.1
    rw [sweepAll]
    simp only [Log.levels_append]
    rw [← rest, first, Tally.failed_add, ← List.append_assoc]
    congr 1
    split_ifs
    · rw [← List.replicate_succ']
    · rw [List.append_nil, Nat.add_zero]

/-! ## Whole sweeps -/

/-- the outcome of a sweep over the entries `names`: `tally` counts what became of them and `after` is what it left -/
structure Swept (directory : Directory σ) (now : Time.Instant) (maxAge : Time.Span) (world : σ) (names : List Name)
    (node? : σ → κ → Option ν) (place : Name → κ) (tally : Tally) (after : σ) : Prop where
  /-- the removed ones are named once each -/
  removed_nodup : tally.removed.Nodup
  /-- they are the entries with a record's name that are regular files, at least as old as the bound, and that could be
  removed -/
  mem_removed : ∀ name, name ∈ tally.removed ↔ name ∈ names ∧ (∃ stem, stem ≠ [] ∧ name = stem ++ recordSuffix) ∧
    (∃ sight, directory.inspect name world = .ok sight ∧ sight.isFile = true ∧
      (maxAge.nanos : ℤ) ≤ max 0 (now.nanos - sight.modified.nanos)) ∧
    (directory.remove name world).1 = .ok ()
  /-- the failed ones have a record's name and could not be looked at, or were due and could not be removed -/
  failed_eq : tally.failed = (names.filter isRecord).countP fun name =>
    look directory now maxAge world name = .hidden ∨
      look directory now maxAge world name = .due ∧ grip directory world name = .stuck
  /-- the scanned ones were kept for their age, removed or failed -/
  scanned_eq : tally.scanned =
    ((names.filter isRecord).countP fun name => look directory now maxAge world name = .young) +
      tally.removed.length + tally.failed
  /-- nothing is gone but what was removed, and nothing else has changed -/
  node?_eq : ∀ k, node? after k = if k ∈ tally.removed.map place then none else node? world k

theorem fate_eq_removed_iff (l : Look) (g : Grip) : l.fate g = .removed ↔ l = .due ∧ g = .taken := by
  cases l <;> cases g <;> decide

theorem fate_eq_failed_iff (l : Look) (g : Grip) : l.fate g = .failed ↔ l = .hidden ∨ l = .due ∧ g = .stuck := by
  cases l <;> cases g <;> decide

theorem fate_eq_kept_iff (l : Look) (g : Grip) : l.fate g = .kept ↔ l = .young := by
  cases l <;> cases g <;> decide

theorem sweepAll_swept (steady : Steady directory world names node? place) :
    Swept directory now maxAge world names node? place
      (sweepAll directory now maxAge Tally.empty world (names.filter isRecord)).1
      (sweepAll directory now maxAge Tally.empty world (names.filter isRecord)).2.1 := by
  have once : (names.filter isRecord).Nodup := steady.distinct.filter _
  obtain ⟨htally, hafter⟩ := steady.sweepAll_eq now maxAge (names.filter isRecord) [] Tally.empty
    (fun _ hn => absurd hn List.not_mem_nil) List.filter_sublist.subset once
  set fate := fun name => (look directory now maxAge world name).fate (grip directory world name)
  have start : without directory world [] = world := rfl
  rw [start] at htally hafter
  have removed : (Tally.empty.addAll fate (names.filter isRecord)).removed =
      (names.filter isRecord).filter (fate · = .removed) := Tally.removed_addAll fate _ _
  have failed : (Tally.empty.addAll fate (names.filter isRecord)).failed =
      (names.filter isRecord).countP (fate · = .failed) := (Tally.failed_addAll fate _ _).trans (Nat.zero_add _)
  have scanned := Tally.scanned_addAll fate Tally.empty (names.filter isRecord)
  rw [htally, hafter]
  refine { removed_nodup := ?_, mem_removed := ?_, failed_eq := ?_, scanned_eq := ?_, node?_eq := ?_ }
  · rw [removed]
    exact once.filter _
  · intro name
    rw [removed, List.mem_filter, List.mem_filter, decide_eq_true_iff, fate_eq_removed_iff, look_eq_due_iff,
      grip_eq_taken_iff, isRecord_iff, and_assoc]
    rfl
  · rw [failed]
    exact List.countP_congr fun name _ => by simp only [decide_eq_true_iff, fate, fate_eq_failed_iff]
  · rw [scanned, removed, failed]
    simp only [fate, fate_eq_kept_iff, Tally.empty]
    omega
  · intro k
    have due : ∀ name ∈ (names.filter isRecord).filter (look directory now maxAge world · = .due),
        name ∈ names ∧ look directory now maxAge world name = .due := by
      intro name hn
      rw [List.mem_filter, List.mem_filter, decide_eq_true_iff] at hn
      exact ⟨hn.1.1, hn.2⟩
    rw [List.nil_append, steady.node?_without (areFiles_of_due now maxAge due) (once.filter _) k, removed,
      List.filter_filter]
    simp only [fate, fate_eq_removed_iff, Bool.decide_and, Bool.and_comm]

/-- a sweep does to what it is told what is said of it, whether or not the list breaks off -/
theorem sweepNames_told {listing : Listing} (steady : Steady directory world listing.names node? place)
    (hlist : directory.list world = .ok listing) :
    ∃ tally, (sweepNames directory now maxAge world).1 = listing.close tally ∧
      Swept directory now maxAge world listing.names node? place tally (sweepNames directory now maxAge world).2.1 := by
  have swept := sweepAll_swept now maxAge steady
  unfold sweepNames
  rw [hlist]
  exact ⟨_, rfl, swept⟩

/-- **Whatever the entries answer, a sweep gives back a tally**, if the directory can be listed to its end. -/
theorem sweepNames_listed (steady : Steady directory world names node? place)
    (hlist : directory.list world = .ok (.whole names)) :
    ∃ tally, (sweepNames directory now maxAge world).1 = .ok (some tally) ∧
      Swept directory now maxAge world names node? place tally (sweepNames directory now maxAge world).2.1 :=
  sweepNames_told now maxAge steady hlist

/-- **A list that breaks off makes the sweep fail**, and what it told before is swept. -/
theorem sweepNames_broken {fault : Disk.Fault} (steady : Steady directory world names node? place)
    (hlist : directory.list world = .ok ⟨names, some fault⟩) :
    (sweepNames directory now maxAge world).1 = .error fault ∧
      ∃ tally, Swept directory now maxAge world names node? place tally (sweepNames directory now maxAge world).2.1 := by
  obtain ⟨tally, result, swept⟩ := sweepNames_told now maxAge steady hlist
  exact ⟨result, tally, swept⟩

theorem sweepNames_absent (hlist : directory.list world = .error .notFound) :
    sweepNames directory now maxAge world = (.ok none, world, []) := by
  unfold sweepNames
  rw [hlist]

theorem sweepNames_refused {fault : Disk.Fault} (present : fault ≠ .notFound)
    (hlist : directory.list world = .error fault) :
    sweepNames directory now maxAge world = (.error fault, world, []) := by
  unfold sweepNames
  rw [hlist]
  cases fault <;> first | rfl | exact absurd rfl present

end CheckReport.Sweep
