/-
The age that a sweep is asked for.

The minutes of a sweep stand in the settings, and those of the command line win over them. Every number of 64 bits can be
given; the command sweeps as if the bound were exactly so many minutes, however many they are.

- `ofArguments_sweepFrom`: the numbers that the command line takes.
- `execute_sweep`: the bound that a sweep is carried out with.
- `age_bound_exact`: which records a sweep takes for expired, and which of them are gone.
-/
import CheckReport.Proofs.CommandLine.SweepForms
import CheckReport.Proofs.CommandLine.Words
import CheckReport.Proofs.Sweep.AgeBound

namespace CheckReport.CommandLine

open Text.Utf8 (Bytes)

/-! ## The numbers that can be given -/

theorem admitsWord_toString (minutes : ℕ) : OptionName.maxAgeMins.admitsWord (toString minutes) = true := by
  unfold OptionName.admitsWord
  split
  · rename_i c cs dash
    rw [Nat.toString_eq_ofList_toDigits, String.toList_ofList] at dash
    have first : '-' ∈ Nat.toDigits 10 minutes := dash ▸ List.mem_cons_self
    exact absurd (Decimal.isDigit_of_mem_toDigits first) (by decide)
  · rfl

/-- a number of minutes is taken exactly if 64 bits hold it -/
theorem ofArguments_sweepFrom (minutes : ℕ) :
    Invocation.ofArguments ["sweep", "--max-age-mins", toString minutes] =
      if minutes ≤ 2 ^ 64 - 1 then .ok ⟨false, defaultConfig, .sweep none (some minutes) false⟩
      else .error .unusable := by
  have value : Scope.sweep.Values .maxAgeMins := ⟨by decide, rfl⟩
  have written : Written .sweep [apart .maxAgeMins (toString minutes)] [(.maxAgeMins, toString minutes)] :=
    .cons (gives_apart value (admitsWord_toString minutes)) .nil
  have front : Written .top [] [] := .nil
  have read := ofArguments_written front written (by decide)
  have bound : Decimal.maxUnsigned64 = 2 ^ 64 - 1 := rfl
  have taken : OptionName.maxAgeMins.read? (toString minutes) =
      if minutes ≤ 2 ^ 64 - 1 then some (.maxAgeMins minutes) else none := by
    rw [OptionName.read?, Decimal.nat?_toString, bound]
    split_ifs <;> rfl
  have own : Options.ofSettings .sweep [(.maxAgeMins, toString minutes)] =
      if minutes ≤ 2 ^ 64 - 1 then .ok [(.maxAgeMins, .maxAgeMins minutes)] else .error .unusable := by
    split_ifs with fits
    · have reads : Reads [(.maxAgeMins, toString minutes)] [(.maxAgeMins, .maxAgeMins minutes)] :=
        .cons ⟨rfl, by rw [taken, if_pos fits]⟩ .nil
      exact ofSettings_of_reads reads (by simp)
    · rw [if_neg fits] at taken
      simp only [Options.ofSettings, List.foldlM_cons, Options.add, taken]
      rfl
  rw [own] at read
  refine read.trans ?_
  split_ifs <;> rfl

/-! ## The bound of the command -/

/-- the end of a sweep of a directory with a bound -/
def sweptBy (place : Path) (bound : Time.Span) (json : Bool) (host : Host) : Ended :=
  let (result, disk, log) := Sweep.sweep place bound host.disk
  let after := { host with disk := disk }
  match result with
  | .error e => .failed (.under s!"Cannot sweep record directory {place.display}" e) after log
  | .ok report => .ofWritten (reportText json report) after log

theorem sweptBy_disk (place : Path) (bound : Time.Span) (json : Bool) (host : Host) :
    (sweptBy place bound json host).host.disk = (Sweep.sweep place bound host.disk).2.1 := by
  unfold sweptBy
  rcases Sweep.sweep place bound host.disk with ⟨_ | report, disk, log⟩
  · rfl
  · simp

variable {verbose json : Bool} {config place : Path} {dir : Option Path} {maxAgeMins : Option ℕ} {input : Bytes}
  {host : Host} {settings : Settings}

/-- the minutes of the command line win over those of the settings -/
theorem execute_sweep (loaded : Settings.load config host.disk = .ok settings)
    (found : dir.elim (settings.records.directory host.home) .ok = .ok place) :
    execute ⟨verbose, config, .sweep dir maxAgeMins json⟩ input host =
      sweptBy place (.ofMinutes (maxAgeMins.getD settings.records.orphanMaxAgeMins)) json host := by
  -- the directory does not hang on the minutes
  have same : Settings.Records.directory { settings.records with
      orphanMaxAgeMins := maxAgeMins.getD settings.records.orphanMaxAgeMins } host.home =
      settings.records.directory host.home := rfl
  have run : sweep settings dir maxAgeMins json host =
      sweptBy place (.ofMinutes (maxAgeMins.getD settings.records.orphanMaxAgeMins)) json host := by
    unfold sweep sweptBy
    simp only [same]
    split
    · rename_i fault refused
      cases dir <;> simp_all
    · rename_i place' chosen
      obtain rfl : place' = place := by cases dir <;> simp_all
      rfl
  rw [← run]
  simp only [execute, loaded]

/-! ## Main result -/

/-- what a sweep of a directory does that takes exactly so many minutes for its bound -/
structure SweepsFrom (minutes : ℕ) (place : Path) (json : Bool) (host : Host) (ended : Ended) : Prop where
  /-- a record is gone exactly if it is so old and can be removed, whatever the ages of the others -/
  gone_iff : ∀ name loc node, Sweep.Shelved host.disk place name loc node →
    Sweep.InReach host.disk.now node.modified → (ended.host.disk.node? loc = none ↔
      (60 * minutes * 10 ^ 9 : ℤ) ≤ max 0 (host.disk.now.nanos - node.modified.nanos) ∧
        (host.disk.remove (place.join ⟨name⟩)).1 = .ok ())
  /-- and if all ages are in reach, the sweep ends as with that bound, with its report, its log and its exit code -/
  ended_eq : Sweep.AllInReach host.disk.now host.disk → ended = sweptBy place (.exactMinutes minutes) json host

/-- **A record expires at exactly the age that is set**, to the nanosecond. For every number of minutes and every age
below the greatest number of seconds that 64 bits hold, the bound is that of unbounded arithmetic; minutes that make
that number or more let no record expire, and more minutes never let more records expire. The minutes may be any number
of 64 bits, from the command line or else from the settings. -/
theorem age_bound_exact :
    (∀ dir minutes now modified, Sweep.InReach now modified →
      (Sweep.expired now (Settings.Records.orphanMaxAge ⟨dir, minutes⟩) modified = true ↔
        (60 * minutes * 10 ^ 9 : ℤ) ≤ max 0 (now.nanos - modified.nanos))) ∧
    (∀ dir minutes now modified, Sweep.InReach now modified → 2 ^ 64 - 1 ≤ 60 * minutes →
      Sweep.expired now (Settings.Records.orphanMaxAge ⟨dir, minutes⟩) modified = false) ∧
    (∀ dir fewer minutes now modified, fewer ≤ minutes →
      Sweep.expired now (Settings.Records.orphanMaxAge ⟨dir, minutes⟩) modified = true →
      Sweep.expired now (Settings.Records.orphanMaxAge ⟨dir, fewer⟩) modified = true) ∧
    (∀ minutes, Invocation.ofArguments ["sweep", "--max-age-mins", toString minutes] =
      if minutes ≤ 2 ^ 64 - 1 then .ok ⟨false, defaultConfig, .sweep none (some minutes) false⟩
      else .error .unusable) ∧
    ∀ verbose config dir maxAgeMins json input host settings place,
      Settings.load config host.disk = .ok settings →
      dir.elim (settings.records.directory host.home) .ok = .ok place →
      SweepsFrom (maxAgeMins.getD settings.records.orphanMaxAgeMins) place json host
        (execute ⟨verbose, config, .sweep dir maxAgeMins json⟩ input host) := by
  refine ⟨?exact, ?never, ?antitone, ofArguments_sweepFrom, ?command⟩
  case exact =>
    intro dir minutes now modified reach
    rw [Settings.Records.orphanMaxAge, Sweep.expired_ofMinutes reach]
    exact Sweep.expired_exactMinutes_iff
  case never =>
    intro dir minutes now modified reach greater
    exact Sweep.not_expired_ofMinutes reach greater
  case antitone =>
    intro dir fewer minutes now modified h old
    exact Sweep.expired_of_le (Sweep.ofMinutes_le h) old
  case command =>
    intro verbose config dir maxAgeMins json input host settings place loaded found
    rw [execute_sweep loaded found]
    refine { gone_iff := ?gone, ended_eq := ?ended }
    case gone =>
      intro name loc node shelved reach
      rw [sweptBy_disk]
      exact Sweep.gone_iff shelved reach
    case ended =>
      intro reach
      unfold sweptBy
      rw [Sweep.sweep_ofMinutes reach]

def recordName (name : String) : Disk.Name := Text.Utf8.encode name ++ Sweep.recordSuffix

/-- the place of a record in the root directory -/
def shelf (name : String) : Disk.Location := [recordName name]

def recordFrom (nanos : ℤ) : Disk.Node := ⟨.file [], .newFile, ⟨0, 0⟩, ⟨nanos⟩⟩

/-- a host with two records in its root directory, the one a minute old, the other a nanosecond younger -/
def minuteHost : Host :=
  { Host.bare with
    disk := { (Host.bare.disk.put (shelf "due") (recordFrom 0)).put (shelf "young") (recordFrom 1) with
      now := ⟨60 * 10 ^ 9⟩ } }

/-- **A nanosecond decides**: of the two records, a sweep with a bound of one minute takes away one. With the greatest
number of minutes that can be given it takes neither for expired, and words can give that number. -/
theorem a_nanosecond_decides :
    let ended := execute ⟨false, defaultConfig, .sweep (some (.ofString "/")) (some 1) false⟩ [] minuteHost
    ended.host.disk.node? (shelf "due") = none ∧ ended.host.disk.node? (shelf "young") ≠ none ∧
      Sweep.expired ⟨60 * 10 ^ 9⟩ (Settings.Records.orphanMaxAge ⟨none, 2 ^ 64 - 1⟩) ⟨0⟩ = false ∧
      (Invocation.ofArguments ["sweep", "--max-age-mins", toString (2 ^ 64 - 1)]).isOk = true := by
  obtain ⟨exact_age, never, -, words, command⟩ := age_bound_exact
  have sweeps := command false defaultConfig (some (.ofString "/")) (some 1) false [] minuteHost .defaults (.ofString "/")
    (by decide +kernel) rfl
  have sound : minuteHost.disk.isSound = true := by decide +kernel
  have listed : minuteHost.disk.list (.ofString "/") = .ok [recordName "due", recordName "young"] := by decide +kernel
  have above : minuteHost.disk.lookup .target (.ofString "/") = .ok ([], ⟨.directory, .newDirectory, ⟨0, 0⟩, ⟨0⟩⟩) := by
    decide +kernel
  have due : Sweep.Shelved minuteHost.disk (.ofString "/") (recordName "due") (shelf "due") (recordFrom 0) :=
    ⟨sound, ⟨_, listed, by decide⟩, ⟨_, _, above, rfl⟩, by decide, by decide +kernel, rfl⟩
  have young : Sweep.Shelved minuteHost.disk (.ofString "/") (recordName "young") (shelf "young") (recordFrom 1) :=
    ⟨sound, ⟨_, listed, by decide⟩, ⟨_, _, above, rfl⟩, by decide, by decide +kernel, rfl⟩
  refine ⟨?due, ?young, ?greatest, ?given⟩
  case due => exact (sweeps.gone_iff _ _ _ due (by decide)).2 ⟨by decide, by decide +kernel⟩
  case young =>
    intro gone
    have old := ((sweeps.gone_iff _ _ _ young (by decide)).1 gone).1
    revert old
    decide
  case greatest => exact never none (2 ^ 64 - 1) _ _ (by decide) (by decide)
  case given =>
    rw [words]
    rfl

end CheckReport.CommandLine
