/-
The bound of a sweep, set in minutes.

The age from which on a record is an orphan is set in minutes and kept in seconds of 64 bits; a greater product stays at
the greatest number (`Time.Span.ofMinutes`). No age below that number shows the difference: a sweep does what one does
whose bound is exactly so many minutes long.

- `expired_ofMinutes`: a record is expired with the bound that is kept exactly if it is with the bound that is meant.
- `expired_of_le`: a lesser bound lets no fewer records expire.
- `sweep_ofMinutes`: a whole sweep of a directory of a disk, with its report and its log.
- `gone_iff`: which records are gone, each told from its own age, whatever the others are.
-/
import CheckReport.Proofs.Disk.Entries
import CheckReport.Proofs.Sweep.Counts
import CheckReport.Settings.Basic

namespace CheckReport

/-- so many minutes, whether 64 bits hold their seconds or not -/
def Time.Span.exactMinutes (m : ℕ) : Time.Span := ⟨60 * m * perSecond⟩

namespace Sweep

open Disk (Location Name Node)

/-- an age that is told in seconds of 64 bits, and not by the greatest number of them -/
def InReach (now modified : Time.Instant) : Prop := age now modified < (2 ^ 64 - 1) * 10 ^ 9

instance (now modified : Time.Instant) : Decidable (InReach now modified) := inferInstanceAs (Decidable (_ < _))

/-! ## Bounds -/

section Bounds

variable {now modified : Time.Instant} {m n : ℕ}

theorem nanos_ofMinutes (m : ℕ) : (Time.Span.ofMinutes m).nanos = min (60 * m) (2 ^ 64 - 1) * 10 ^ 9 := rfl

theorem expired_exactMinutes_iff :
    expired now (.exactMinutes m) modified = true ↔ (60 * m * 10 ^ 9 : ℤ) ≤ age now modified := by
  have nanos : ((Time.Span.exactMinutes m).nanos : ℤ) = 60 * m * 10 ^ 9 := by
    rw [Time.Span.exactMinutes, Time.Span.perSecond]
    push_cast
    rfl
  rw [expired_iff, nanos]

/-- **The bound that is kept counts as the one that is meant**, for every age in reach. -/
theorem expired_ofMinutes (reach : InReach now modified) :
    expired now (.ofMinutes m) modified = expired now (.exactMinutes m) modified := by
  rw [Bool.eq_iff_iff, expired_exactMinutes_iff, expired_iff, nanos_ofMinutes]
  unfold InReach at reach
  rcases le_total (60 * m) (2 ^ 64 - 1) with fits | greater
  · rw [min_eq_left fits]
    push_cast
    rfl
  · -- neither bound is reached
    rw [min_eq_right greater]
    omega

theorem not_expired_ofMinutes (reach : InReach now modified) (greater : 2 ^ 64 - 1 ≤ 60 * m) :
    expired now (.ofMinutes m) modified = false := by
  rw [← Bool.not_eq_true, expired_iff, nanos_ofMinutes, min_eq_right greater]
  unfold InReach at reach
  omega

theorem expired_of_le {a b : Time.Span} (h : a.nanos ≤ b.nanos) (old : expired now b modified = true) :
    expired now a modified = true := by
  rw [expired_iff] at old ⊢
  exact le_trans (Int.ofNat_le.2 h) old

theorem ofMinutes_le (h : m ≤ n) : (Time.Span.ofMinutes m).nanos ≤ (Time.Span.ofMinutes n).nanos := by
  rw [nanos_ofMinutes, nanos_ofMinutes]
  omega

end Bounds

/-! ## Sweeps with two bounds -/

variable {σ : Type} {directory : Directory σ} {now : Time.Instant} {m : ℕ}

theorem sweepRecord_ofMinutes {name : Name} {world : σ}
    (reach : ∀ sight, directory.inspect name world = .ok sight → sight.isFile = true → InReach now sight.modified) :
    sweepRecord directory now (.ofMinutes m) name world = sweepRecord directory now (.exactMinutes m) name world := by
  unfold sweepRecord
  cases seen : directory.inspect name world with
  | error fault => cases fault <;> rfl
  | ok sight =>
    cases file : sight.isFile with
    | false => simp only [changed?, file, Bool.false_eq_true, if_false, Log.failOpen_ok]
    | true => simp only [changed?, file, if_true, Log.failOpen_ok, expired_ofMinutes (reach sight seen file)]

/-- bounds with which each record is treated alike, while something holds that the sweep keeps -/
theorem sweepAll_congr (Kept : σ → Prop) {a b : Time.Span}
    (keeps : ∀ world name, Kept world → Kept (sweepRecord directory now b name world).2.1)
    (same : ∀ world name, Kept world → sweepRecord directory now a name world = sweepRecord directory now b name world)
    (names : List Name) (tally : Tally) {world : σ} (kept : Kept world) :
    sweepAll directory now a tally world names = sweepAll directory now b tally world names := by
  induction names generalizing tally world with
  | nil => rfl
  | cons name names ih =>
    rw [sweepAll, sweepAll, same world name kept]
    simp only [ih _ (keeps world name kept)]

/-! ## Directories of a disk -/

variable {disk : Disk} {dir : Path}

/-- the age of every file of the disk is in reach -/
def AllInReach (now : Time.Instant) (disk : Disk) : Prop :=
  ∀ loc node, disk.node? loc = some node → node.isFile = true → InReach now node.modified

theorem AllInReach.cleared {maxAge : Time.Span} {after : Disk} (h : AllInReach now disk)
    (cleared : Cleared now maxAge disk after) : AllInReach now after := by
  intro loc node hn file
  rcases cleared.kept loc with same | ⟨gone, -⟩
  · exact h loc node (same.symm.trans hn) file
  · rw [gone] at hn
    cases hn

/-- what a look at an entry shows stands on the disk -/
theorem sight_eq {name : Name} {sight : Sight} (h : (Directory.ofPath dir).inspect name disk = .ok sight) :
    ∃ loc node, disk.lookup .entry (dir.join ⟨name⟩) = .ok (loc, node) ∧ disk.node? loc = some node ∧
      sight = ⟨node.isFile, node.modified⟩ := by
  simp only [Directory.ofPath] at h
  split at h
  · cases h
  · rename_i loc node found
    cases h
    exact ⟨loc, node, found, Disk.node?_of_lookup found, rfl⟩

/-- **A whole sweep does what it does with the bound that is meant**, report and log included. -/
theorem sweep_ofMinutes (reach : AllInReach disk.now disk) :
    sweep dir (.ofMinutes m) disk = sweep dir (.exactMinutes m) disk := by
  have all : ∀ names, sweepAll (Directory.ofPath dir) disk.now (.ofMinutes m) Tally.empty disk names =
      sweepAll (Directory.ofPath dir) disk.now (.exactMinutes m) Tally.empty disk names := by
    intro names
    refine sweepAll_congr (AllInReach disk.now) ?keeps ?same names Tally.empty reach
    case keeps =>
      intro world name kept
      exact kept.cleared (sweepRecord_cleared disk.now _ world name)
    case same =>
      intro world name kept
      refine sweepRecord_ofMinutes fun sight seen file => ?_
      obtain ⟨loc, node, -, hn, rfl⟩ := sight_eq seen
      exact kept loc node hn file
  unfold sweep sweepNames
  simp only [all]

/-- a record in a directory that can be listed, at its location -/
structure Shelved (disk : Disk) (dir : Path) (name : Name) (loc : Location) (node : Node) : Prop where
  sound : disk.isSound = true
  listed : ∃ names, disk.list dir = .ok names ∧ name ∈ names
  place : ∃ above top, disk.lookup .target dir = .ok (above, top) ∧ loc = name :: above
  record : isRecord name = true
  node?_eq : disk.node? loc = some node
  isFile : node.isFile = true

/-- **Which records are gone**: those that are old enough and can be removed. The ages of the others do not matter. -/
theorem gone_iff {loc : Location} {node : Node} {name : Name} (shelved : Shelved disk dir name loc node)
    (reach : InReach disk.now node.modified) :
    (sweep dir (.ofMinutes m) disk).2.1.node? loc = none ↔
      (60 * m * 10 ^ 9 : ℤ) ≤ age disk.now node.modified ∧ (disk.remove (dir.join ⟨name⟩)).1 = .ok () := by
  obtain ⟨sound, ⟨names, listed, mem⟩, ⟨above, top, hlook, rfl⟩, record, hn, file⟩ := shelved
  obtain ⟨⟨above', top', hlook', hdir⟩, distinct, proper⟩ := Disk.list_of_isSound sound listed
  obtain ⟨rfl, rfl⟩ : above' = above ∧ top' = top := by
    rw [hlook] at hlook'
    cases hlook'
    exact ⟨rfl, rfl⟩
  have steady := ofPath_steady hlook hdir distinct proper
  obtain ⟨tally, -, swept⟩ := sweepNames_listed disk.now (.ofMinutes m) steady (Directory.ofPath_list_ok listed)
  have gone : (sweep dir (.ofMinutes m) disk).2.1.node? (name :: above') = none ↔ name ∈ tally.removed := by
    rw [sweep_snd, swept.node?_eq, hn]
    simp
  have due : expired disk.now (.ofMinutes m) node.modified = true ↔
      (60 * m * 10 ^ 9 : ℤ) ≤ age disk.now node.modified := by
    rw [expired_ofMinutes reach, expired_exactMinutes_iff]
  rw [gone, swept.mem_removed, ← due, expired_iff]
  constructor
  · rintro ⟨-, -, ⟨sight, seen, -, old⟩, taken⟩
    obtain ⟨place, child, found, -, rfl⟩ := sight_eq seen
    obtain ⟨-, hchild⟩ := Disk.lookup_join_ok (proper name mem) hlook found
    rw [hn] at hchild
    cases hchild
    exact ⟨old, taken⟩
  · rintro ⟨old, taken⟩
    obtain ⟨place, child, found, -⟩ := Disk.remove_ok taken
    obtain ⟨-, hchild⟩ := Disk.lookup_join_ok (proper name mem) hlook found
    rw [hn] at hchild
    cases hchild
    have seen : (Directory.ofPath dir).inspect name disk = .ok ⟨node.isFile, node.modified⟩ := by
      simp only [Directory.ofPath, found]
    exact ⟨mem, (isRecord_iff name).1 record, ⟨_, seen, file, old⟩, taken⟩

end Sweep

end CheckReport
