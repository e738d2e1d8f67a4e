/-
The two forms of a sweep's report.

A sweep prints its report as text or, with `--json`, as an object. The form is chosen when the records are already gone.
Text shows any path; an object takes texts only. So the two forms go apart exactly when a path of the report is no text:
the sweep is then done, but `--json` ends with 1 and prints nothing.

- `told_of_report`: how the two forms of one report end.
- `sweep_forms`: what the two sweeps of a host do, say and end with.
- `unprintable_lost`: a record that is removed by a sweep that fails.
-/
import CheckReport.CommandLine.Execution
import CheckReport.Proofs.Sweep.Reports

namespace CheckReport.CommandLine

open Text.Utf8 (Bytes)

/-- the two ends of a sweep with this report: as text it is always told, as an object only if its paths are texts -/
structure Told (report : Sweep.Report) (text json : Ended) : Prop where
  text_code : text.code = 0
  text_output : text.output = String.join (report.text.map (· ++ "\n"))
  json_told : report.IsText → json.code = 0 ∧ json.output = report.members.render ++ "\n"
  json_refused : ¬ report.IsText → json.code = 1 ∧ json.output = "" ∧ json.failure = some ⟨[], .report⟩

/-- the ends of a sweep of a host in the two forms -/
structure Forms (config : Path) (dir : Option Path) (maxAgeMins : Option Nat) (host : Host) (text json : Ended) :
    Prop where
  /-- the same records are gone -/
  host_eq : json.host = text.host
  log_eq : json.log = text.log
  /-- a sweep that fails as text has removed nothing, and fails as an object in the same way -/
  failed : text.code ≠ 0 → text.host = host ∧ json = text
  /-- any other sweep, of the directory and with the age that are given or set, has a report, which is told in the two
  forms; nothing is removed exactly if it names nothing -/
  swept : text.code = 0 → ∃ settings place report, Settings.load config host.disk = .ok settings ∧
    dir.elim (settings.records.directory host.home) .ok = .ok place ∧
    Sweep.sweep place (.ofMinutes (maxAgeMins.getD settings.records.orphanMaxAgeMins)) host.disk =
      (.ok report, text.host.disk, text.log) ∧
    Told report text json ∧ (report.removed = [] ↔ text.host = host)

namespace Cause

theorem exitCode_ne_zero (cause : Cause) : cause.exitCode ≠ 0 := by
  cases cause with
  | operation e =>
    have := e.exitCode_ne_zero
    simp only [exitCode, Bool.and_eq_true, decide_eq_true_eq]
    split <;> omega
  | input fault => exact Nat.one_ne_zero
  | report => exact Nat.one_ne_zero

end Cause

/-! ## The end of a sweep -/

/-- how a sweep ends whose report could be written or not -/
def Ended.ofWritten (written : Except Failure String) (after : Host) (log : List Log.Entry) : Ended :=
  match written with
  | .ok output => .success output after log
  | .error failure => .failed failure after log

namespace Ended

variable (written : Except Failure String) (after : Host) (log : List Log.Entry)

@[simp] theorem ofWritten_host : (ofWritten written after log).host = after := by cases written <;> rfl

@[simp] theorem ofWritten_log : (ofWritten written after log).log = log := by cases written <;> rfl

end Ended

theorem told_of_report (report : Sweep.Report) (after : Host) (log : List Log.Entry) :
    Told report (.ofWritten (reportText false report) after log) (.ofWritten (reportText true report) after log) := by
  refine { text_code := rfl, text_output := rfl, json_told := ?told, json_refused := ?refused }
  case told =>
    intro texts
    have written : reportText true report = .ok (report.members.render ++ "\n") := by
      simp [reportText, Sweep.Report.object?_of_isText texts]
    rw [written]
    exact ⟨rfl, rfl⟩
  case refused =>
    intro other
    have refused : reportText true report = .error ⟨[], .report⟩ := by
      simp [reportText, (Sweep.Report.object?_eq_none_iff report).2 other]
    rw [refused]
    exact ⟨rfl, rfl, rfl⟩

variable {config : Path} {dir : Option Path} {maxAgeMins : Option Nat} {host : Host} {settings : Settings}

/-- a failure before the report is the same in both forms -/
theorem Forms.of_failed (failure : Failure) :
    Forms config dir maxAgeMins host (.failed failure host []) (.failed failure host []) where
  host_eq := rfl
  log_eq := rfl
  failed _ := ⟨rfl, rfl⟩
  swept code := absurd code failure.cause.exitCode_ne_zero

theorem Forms.of_report {place : Path} {report : Sweep.Report} {disk : Disk} {log : List Log.Entry}
    (loaded : Settings.load config host.disk = .ok settings)
    (found : dir.elim (settings.records.directory host.home) .ok = .ok place)
    (swept : Sweep.sweep place (.ofMinutes (maxAgeMins.getD settings.records.orphanMaxAgeMins)) host.disk =
      (.ok report, disk, log)) :
    Forms config dir maxAgeMins host (.ofWritten (reportText false report) { host with disk := disk } log)
      (.ofWritten (reportText true report) { host with disk := disk } log) where
  host_eq := by simp
  log_eq := by simp
  failed failed := absurd rfl failed
  swept _ := by
    refine ⟨settings, place, report, loaded, found, ?_, told_of_report report _ log, ?_⟩
    · simp [swept]
    · rw [Sweep.sweep_removed_eq_nil_iff swept, Ended.ofWritten_host]
      constructor
      · rintro rfl
        rfl
      · intro same
        exact congrArg Host.disk same

/-! ## Main result -/

theorem sweep_forms_of_settings (loaded : Settings.load config host.disk = .ok settings) :
    Forms config dir maxAgeMins host (sweep settings dir maxAgeMins false host)
      (sweep settings dir maxAgeMins true host) := by
  simp only [sweep]
  split
  · exact .of_failed _
  · rename_i place found
    rcases swept : Sweep.sweep place _ host.disk with ⟨result, disk, log⟩
    cases result with
    | error e =>
      obtain ⟨rfl, rfl⟩ := Sweep.sweep_error swept
      exact .of_failed _
    | ok report =>
      refine .of_report loaded ?_ swept
      cases dir <;> exact found

/-- **The two forms go apart only where a path is no text.** For every directory, age and host: both sweeps leave the same
host; one that fails as text has removed nothing and fails as an object in the same way; any other is told as text, and
as an object exactly if the paths of its report are texts. If not, it has been carried out all the same. -/
theorem sweep_forms (verbose : Bool) (config : Path) (dir : Option Path) (maxAgeMins : Option Nat) (input : Bytes)
    (host : Host) :
    Forms config dir maxAgeMins host (execute ⟨verbose, config, .sweep dir maxAgeMins false⟩ input host)
      (execute ⟨verbose, config, .sweep dir maxAgeMins true⟩ input host) := by
  simp only [execute]
  cases loaded : Settings.load config host.disk with
  | error fault => exact .of_failed _
  | ok settings => exact sweep_forms_of_settings loaded

/-- the place of an old record in the home directory, whose name is no text -/
def unprintable : Disk.Location := [[0x61, 0xFF] ++ Sweep.recordSuffix, Text.Utf8.encode "sn1ff"]

/-- a host whose home directory is the root, two days after the record was last changed -/
def agedHost : Host :=
  let directory : Disk.Node := ⟨.directory, .newDirectory, ⟨0, 0⟩, ⟨0⟩⟩
  let file : Disk.Node := ⟨.file [], .newFile, ⟨0, 0⟩, ⟨0⟩⟩
  { Host.bare with
    disk := { (Host.bare.disk.put unprintable.tail directory).put unprintable file with now := ⟨172800 * 10 ^ 9⟩ }
    home := some (.ofString "/") }

/-- a record is removed by a sweep that fails; as text, the same sweep succeeds -/
theorem unprintable_lost :
    let text := interpret ["sweep"] [] agedHost
    let json := interpret ["sweep", "--json"] [] agedHost
    (agedHost.disk.node? unprintable).isSome = true ∧ json.host.disk.node? unprintable = none ∧
      json.code = 1 ∧ json.output = "" ∧ text.code = 0 ∧
      text.output = "/sn1ff: 1 records scanned, 1 removed, 0 failed\n  removed /sn1ff/a\uFFFD.snff\n" := by
  decide +kernel

end CheckReport.CommandLine
