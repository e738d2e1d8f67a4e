/-
A record's life in two command lines.

Whoever wants to do something between opening a record and handing it in calls `begin`, keeps the line that it prints,
and calls `end` with it. The collector then cannot tell the two calls from one `run`.

- `ofArguments_commandLine`: what the command lines say, with a settings file or without, and with a remote host or
  without.
- `trySearch_after`, `trySearch_remoteHost`: a run of a program changes nothing that the second command
  line reads, and the remote host makes no difference to the first.
- `split_lifecycle`: the two command lines against the one.
-/
import CheckReport.Proofs.Collector.Starts
import CheckReport.Proofs.CommandLine.ExitCode
import CheckReport.Proofs.CommandLine.Words

namespace CheckReport.CommandLine

open Text.Utf8 (Bytes)

/-! ## The command lines -/

/-- a command line with a settings file, if one is named, and options of the command -/
def commandLine (config : Option String) (scope : Scope) (own : List Setting) : List String :=
  config.toList.map (joined .config) ++ scope.name :: own.map fun setting => joined setting.1 setting.2

def beginLine (config : Option String) : List String := commandLine config .begin []

def endLine (config : Option String) (handle : String) (status : Status) (ttl : Ttl) (remoteHost : Option String) :
    List String :=
  commandLine config .finish ((.handle, handle) :: (outcome status ttl ++ address remoteHost))

def runLine (config : Option String) (status : Status) (ttl : Ttl) (remoteHost : Option String) : List String :=
  commandLine config .run (outcome status ttl ++ address remoteHost)

/-- the settings file of a command line; an empty name names none -/
def configPath? : Option String → Option Path
  | none => some defaultConfig
  | some config => OptionName.path? config

/-- the options in one word each -/
abbrev joinedAll (settings : List Setting) : List (List String) :=
  settings.map fun setting => [joined setting.1 setting.2]

theorem written_joinedAll {scope : Scope} {settings : List Setting}
    (h : ∀ setting ∈ settings, scope.Values setting.1) : Written scope (joinedAll settings) settings := by
  induction settings with
  | nil => exact .nil
  | cons setting settings ih =>
    have later := ih fun other mem => h other (List.mem_cons_of_mem setting mem)
    exact .cons (gives_joined (h setting List.mem_cons_self) setting.2) later

theorem flatten_joinedAll (settings : List Setting) :
    (joinedAll settings).flatten = settings.map fun setting => joined setting.1 setting.2 := by
  rw [List.map_eq_flatMap, List.flatMap_def]

theorem ofArguments_commandLine {scope : Scope} {own : List Setting} {options : Options} {command : Command}
    (config : Option String) (hs : scope ∈ Scope.commands) (values : ∀ setting ∈ own, scope.Values setting.1)
    (made : Options.ofSettings scope own = .ok options) (quiet : options.has .verbose = false)
    (unnamed : options.config? = none) (hc : command? scope options = some command) :
    Invocation.ofArguments (commandLine config scope own) = match configPath? config with
      | some path => .ok ⟨false, path, command⟩
      | none => .error .unusable := by
  have value : Scope.top.Values .config := ⟨by decide, rfl⟩
  set shared : List Setting := config.toList.map fun name => (.config, name) with hshared
  have front : ∀ setting ∈ shared, Scope.top.Values setting.1 := by
    intro setting mem
    obtain ⟨name, -, rfl⟩ := List.mem_map.1 mem
    exact value
  have words : commandLine config scope own =
      (joinedAll shared).flatten ++ scope.name :: (joinedAll own).flatten := by
    rw [flatten_joinedAll, flatten_joinedAll, commandLine, hshared, List.map_map]
    rfl
  rw [words, ofArguments_written (written_joinedAll front) (written_joinedAll values) hs, made]
  cases config with
  | none =>
    have none_read : Options.ofSettings .top shared = .ok [] := rfl
    simp only [none_read, hc, quiet, unnamed]
    rfl
  | some name =>
    cases hp : OptionName.path? name with
    | none =>
      have refused : Options.ofSettings .top shared = .error .unusable := by
        simp [hshared, Options.ofSettings, Options.add, OptionName.read?, hp, Options.has]
      rw [refused, configPath?, hp]
    | some path =>
      have read : OptionName.config.read? name = some (.config path) := by rw [OptionName.read?, hp, Option.map_some]
      have reads : Reads shared [(.config, .config path)] := .cons ⟨rfl, read⟩ .nil
      rw [ofSettings_of_reads reads (by simp), configPath?, hp]
      simp only [hc, quiet, unnamed]
      rfl

theorem ofArguments_beginLine (config : Option String) :
    Invocation.ofArguments (beginLine config) = match configPath? config with
      | some path => .ok ⟨false, path, .begin⟩
      | none => .error .unusable :=
  ofArguments_commandLine config (by decide) (fun _ mem => absurd mem List.not_mem_nil) rfl rfl rfl rfl

theorem values_submission {scope : Scope} (hs : scope = .run ∨ scope = .finish) (status : Status) (ttl : Ttl)
    (remoteHost : Option String) :
    ∀ setting ∈ outcome status ttl ++ address remoteHost, scope.Values setting.1 := by
  intro setting mem
  have name : setting.1 ∈ [OptionName.status, .ttl, .remoteHost] := by
    rcases List.mem_append.1 mem with mem | mem
    · simp [outcome] at mem
      rcases mem with rfl | rfl <;> simp
    · obtain ⟨_, -, rfl⟩ := List.mem_map.1 mem
      simp
  have all : ∀ name ∈ [OptionName.status, .ttl, .remoteHost], Scope.run.Values name ∧ Scope.finish.Values name := by
    simp only [Scope.Values]
    decide
  rcases hs with rfl | rfl
  · exact (all _ name).1
  · exact (all _ name).2

theorem ofArguments_runLine (config : Option String) (status : Status) (ttl : Ttl) (remoteHost : Option String) :
    Invocation.ofArguments (runLine config status ttl remoteHost) = match configPath? config with
      | some path => .ok ⟨false, path, .run status.token ttl.minutes [] false remoteHost⟩
      | none => .error .unusable := by
  refine ofArguments_commandLine config (by decide) (values_submission (.inl rfl) status ttl remoteHost)
    (ofSettings_run status ttl remoteHost) ?_ ?_ ?_ <;> cases remoteHost <;> rfl

theorem ofArguments_endLine (config : Option String) (handle : String) (status : Status) (ttl : Ttl)
    (remoteHost : Option String) :
    Invocation.ofArguments (endLine config handle status ttl remoteHost) = match configPath? config with
      | some path => .ok ⟨false, path, .finish handle status.token ttl.minutes remoteHost⟩
      | none => .error .unusable := by
  have handled : Scope.finish.Values .handle := ⟨by decide, rfl⟩
  have own : ∀ setting ∈ ((OptionName.handle, handle) : Setting) :: (outcome status ttl ++ address remoteHost),
      Scope.finish.Values setting.1 := by
    intro setting mem
    rcases List.mem_cons.1 mem with rfl | mem
    · exact handled
    · exact values_submission (.inr rfl) status ttl remoteHost setting mem
  refine ofArguments_commandLine config (by decide) own (ofSettings_finish handle status ttl remoteHost) ?_ ?_ ?_ <;>
    cases remoteHost <;> rfl

/-! ## What the second command line reads -/

/-- the remote host is no part of what is looked for -/
theorem trySearch_remoteHost (settings : Settings) (remoteHost : Option String) (host : Host) :
    trySearch settings remoteHost host = (trySearch settings none host).map fun c =>
      { c with remoteHost := remoteHost.or settings.collector.remoteHost } := by
  unfold trySearch CommandCollector.resolve
  rw [Option.none_or]
  simp only [Settings.Collector.check]
  split_ifs
  · rfl
  · cases host.find? (.ofString settings.collector.program) <;> rfl

/-- launches are no part of what is read -/
theorem load_after (path : Path) (host : Host) (launches : List Launch) :
    Settings.load path { host with launches := launches }.disk = Settings.load path host.disk := rfl

theorem trySearch_after (settings : Settings) (remoteHost : Option String) (host : Host) (launches : List Launch) :
    trySearch settings remoteHost { host with launches := launches } = trySearch settings remoteHost host := rfl

theorem launch_after (c : CommandCollector) (arguments : List String) (host : Host) :
    ∃ launches, (launch c arguments host).2 = { host with launches := launches } := by
  obtain ⟨launches, after⟩ := host.run_launches c.program (arguments.map Text.Utf8.encode)
  refine ⟨launches, ?_⟩
  rw [← after]
  unfold launch
  rcases host.run c.program (arguments.map Text.Utf8.encode) with ⟨_ | ⟨_, _, ending⟩, after⟩
  · rfl
  · rcases ending with (_ | code) | _ | _ <;> rfl

theorem tryOpen_after (c : CommandCollector) (host : Host) :
    ∃ launches, (tryOpen c host).2 = { host with launches := launches } := by
  obtain ⟨launches, after⟩ := launch_after c c.openArguments host
  refine ⟨launches, ?_⟩
  rw [← after]
  unfold tryOpen
  rcases launch c c.openArguments host with ⟨_ | stdout, after⟩
  · rfl
  · simp only
    split <;> rfl

/-! ## The steps of both ways -/

section Found

variable {settings : Settings} {remoteHost : Option String} {host : Host} {c : CommandCollector}

theorem status_passes (status : Status) : (Status.parse status.token).mapError Trouble.argument = .ok status := by
  rw [(Status.parse_eq_ok_iff _ _).2 rfl]
  rfl

theorem ttl_passes (ttl : Ttl) : (Ttl.ofMinutes ttl.minutes).mapError Trouble.argument = .ok ttl := by
  rw [(Ttl.ofMinutes_eq_ok_iff _ _).2 rfl]
  rfl

theorem handle_passes (handle : Handle) : (Handle.parse handle.text).mapError Trouble.argument = .ok handle := by
  rw [handle.parse_text]
  rfl

/-- a report without lines, once the collector is found -/
theorem tryReport_found (found : trySearch settings remoteHost host = .ok c) (status : Status) (ttl : Ttl)
    (passed : List Step) : tryReport settings remoteHost status.token ttl.minutes [] host passed =
      attempt .opening (tryOpen c) (fun handle =>
        attempt .submission (trySubmit c handle status ttl) fun _ => done (some handle)) host
        (passed ++ [.status] ++ [.ttl] ++ [.search]) := by
  rw [tryReport, check_ok (status_passes status), check_ok (ttl_passes ttl), check_ok found]
  rfl

/-- the submission of an open record, once the collector is found -/
theorem tryFinish_found (found : trySearch settings remoteHost host = .ok c) (handle : Handle) (status : Status)
    (ttl : Ttl) (passed : List Step) :
    tryFinish settings handle.text status.token ttl.minutes remoteHost host passed =
      attempt .submission (trySubmit c handle status ttl) (fun _ => done none) host
        (passed ++ [.handle] ++ [.search] ++ [.status] ++ [.ttl]) := by
  rw [tryFinish, check_ok (handle_passes handle), check_ok found, check_ok (status_passes status),
    check_ok (ttl_passes ttl)]

end Found

/-- the exit code of a course -/
def Course.code {α : Type} (course : Course α) : ℕ :=
  match course.result with
  | .ok _ => 0
  | .error (_, trouble) => trouble.code

section Last

variable {α β : Type} {step : Step} (act : Host → Except Trouble α × Host) (host : Host)

theorem attempt_host (value : β) (passed : List Step) :
    (attempt step act (fun _ => done value) host passed).host = (act host).2 := by
  rcases tried : act host with ⟨trouble | given, after⟩
  · rw [attempt_error tried]
  · rw [attempt_ok tried]
    rfl

/-- the same step at the end of two ways -/
theorem attempt_code (one two : β) (before before' : List Step) :
    (attempt step act (fun _ => done one) host before).code =
      (attempt step act (fun _ => done two) host before').code := by
  rcases tried : act host with ⟨trouble | given, after⟩
  · rw [attempt_error tried, attempt_error tried]
    rfl
  · rw [attempt_ok tried, attempt_ok tried]
    rfl

end Last

theorem EndedBy.code_eq {ended : Ended} {course : Course (Option Handle)} (h : EndedBy ended course) :
    ended.code = course.code := by
  obtain ⟨-, told⟩ := h
  unfold Course.code
  rcases hr : course.result with ⟨step, trouble⟩ | value
  · rw [hr] at told
    exact told.1
  · rw [hr] at told
    exact told.1

theorem Corresponds.eq_ok {α : Type} {result : Except Error α} {value : α} (h : Corresponds result (.ok value)) :
    result = .ok value := by
  cases h
  rfl

/-- the collector that the settings of a file name, with the remote host of a command line if it names one -/
def Finds (path : Path) (remoteHost : Option String) (host : Host) (c : CommandCollector) : Prop :=
  ∃ settings, Settings.load path host.disk = .ok settings ∧ trySearch settings remoteHost host = .ok c

/-- the collector that the settings of a file name opens a record -/
def Opens (path : Path) (host : Host) (handle : Handle) : Prop :=
  ∃ c, Finds path none host c ∧ (c.service.openRecord host).result = .ok handle

/-- opening a record and handing it in afterwards, against doing both -/
theorem tries_split (path : Path) (status : Status) (ttl : Ttl) (remoteHost : Option String) (host : Host) :
    let begun := trySettings path tryBegin host []
    let ran := trySettings path (fun settings => tryReport settings remoteHost status.token ttl.minutes []) host []
    (∃ handle, Opens path host handle ∧ begun.result = .ok (some handle) ∧
      let ended := trySettings path
        (fun settings => tryFinish settings handle.text status.token ttl.minutes remoteHost) begun.host []
      ended.host = ran.host ∧ ended.code = ran.code) ∨
    ∃ stopped, begun.result = .error stopped ∧ ran.result = .error stopped ∧ ran.host = begun.host := by
  intro begun ran
  cases hs : Settings.load path host.disk with
  | error fault =>
    have b : begun = ⟨[], .error (.settings, .settings fault), host⟩ := check_error (by rw [hs]; rfl)
    have r : ran = ⟨[], .error (.settings, .settings fault), host⟩ := check_error (by rw [hs]; rfl)
    rw [b, r]
    exact Or.inr ⟨_, rfl, rfl, rfl⟩
  | ok settings =>
    have b : begun = tryBegin settings host [.settings] := check_ok (by rw [hs]; rfl)
    have r : ran = tryReport settings remoteHost status.token ttl.minutes [] host [.settings] :=
      check_ok (by rw [hs]; rfl)
    have searched := trySearch_remoteHost settings remoteHost host
    cases found : trySearch settings none host with
    | error trouble =>
      rw [found] at searched
      rw [tryBegin, check_error found] at b
      rw [tryReport, check_ok (status_passes status), check_ok (ttl_passes ttl), check_error searched] at r
      rw [b, r]
      exact Or.inr ⟨_, rfl, rfl, rfl⟩
    | ok c =>
      rw [found] at searched
      set addressed : CommandCollector := { c with remoteHost := remoteHost.or settings.collector.remoteHost }
      have same : tryOpen addressed host = tryOpen c host := rfl
      rw [tryBegin, check_ok found] at b
      rw [tryReport_found searched] at r
      rcases tried : tryOpen c host with ⟨trouble | handle, after⟩
      · rw [attempt_error tried] at b
        rw [attempt_error (same.trans tried)] at r
        rw [b, r]
        exact Or.inr ⟨_, rfl, rfl, rfl⟩
      · rw [attempt_ok tried] at b
        rw [attempt_ok (same.trans tried)] at r
        have opened : (c.service.openRecord host).result = .ok handle := by
          have corresponds := (openRecord_corresponds c host).1
          rw [tried] at corresponds
          exact corresponds.eq_ok
        refine Or.inl ⟨handle, ⟨c, ⟨settings, hs, found⟩, opened⟩, congrArg Course.result b, ?_⟩
        -- the second command line finds the settings and the collector as the first one did
        obtain ⟨launches, kept⟩ := tryOpen_after c host
        have begun_host : begun.host = { host with launches := launches } := by
          rw [b, ← kept, tried]
          rfl
        have loaded : (Settings.load path begun.host.disk).mapError Trouble.settings = .ok settings := by
          rw [begun_host, load_after, hs]
          rfl
        have found_again : trySearch settings remoteHost begun.host = .ok addressed := by
          rw [begun_host, trySearch_after, searched]
          rfl
        have e : trySettings path
            (fun settings => tryFinish settings handle.text status.token ttl.minutes remoteHost) begun.host [] =
          tryFinish settings handle.text status.token ttl.minutes remoteHost begun.host [.settings] := check_ok loaded
        rw [tryFinish_found found_again] at e
        rw [e, r, congrArg Course.host b]
        exact ⟨(attempt_host _ _ _ _).trans (attempt_host _ _ _ _).symm, attempt_code _ _ _ _ _ _⟩

/-! ## Main result -/

/-- no character of a handle ends a line or a text -/
theorem handle_one_line (handle : Handle) :
    ∀ c ∈ handle.text.toList, c ≠ '\n' ∧ c ≠ '\r' ∧ c ≠ Char.ofNat 0 := by
  obtain ⟨lf, cr, nul⟩ := (isOneLine_iff handle.text).1 handle.one_line
  intro c mem
  refine ⟨?_, ?_, ?_⟩ <;> rintro rfl <;> contradiction

/-- **Two command lines for one.** For every settings file, outcome and remote host, every input, and every host
whatever its files and programs are. If `begin` succeeds, it prints on one line the handle of the record that was opened,
and the line is read back as this handle; and then `end` with it leaves the host as `run` does, with the same programs
started with the same arguments in the same order, and ends with the same exit code. If `begin` fails, so does `run`, in
the same way. -/
theorem split_lifecycle (config : Option String) (status : Status) (ttl : Ttl) (remoteHost : Option String)
    (host : Host) (first second whole : Bytes) :
    let begun := interpret (beginLine config) first host
    let ran := interpret (runLine config status ttl remoteHost) whole host
    (begun.code = 0 → ∃ path handle, configPath? config = some path ∧ Opens path host handle ∧
      begun.output = handle.text ++ "\n" ∧ (∀ c ∈ handle.text.toList, c ≠ '\n' ∧ c ≠ '\r' ∧ c ≠ Char.ofNat 0) ∧
      Handle.parse handle.text = .ok handle ∧
      let ended := interpret (endLine config handle.text status ttl remoteHost) second begun.host
      ended.host = ran.host ∧ ended.code = ran.code) ∧
    (begun.code ≠ 0 → ran.host = begun.host ∧ ran.code = begun.code) := by
  intro begun ran
  cases hp : configPath? config with
  | none =>
    have b : begun = ⟨unusableCode, "", none, host, []⟩ := by
      simp only [begun, interpret, ofArguments_beginLine, hp]
    have r : ran = ⟨unusableCode, "", none, host, []⟩ := by
      simp only [ran, interpret, ofArguments_runLine, hp]
    rw [b, r]
    exact ⟨fun succeeded => absurd succeeded (Nat.succ_ne_zero 1), fun _ => ⟨rfl, rfl⟩⟩
  | some path =>
    have b : EndedBy begun (trySettings path tryBegin host []) := by
      simp only [begun, interpret, ofArguments_beginLine, hp]
      exact execute_endedBy rfl host
    have r : EndedBy ran
        (trySettings path (fun settings => tryReport settings remoteHost status.token ttl.minutes []) host []) := by
      simp only [ran, interpret, ofArguments_runLine, hp]
      exact execute_endedBy rfl host
    rcases tries_split path status ttl remoteHost host with
      ⟨handle, opens, opened, same_host, same_code⟩ | ⟨stopped, failed, failed', same_host⟩
    · have told := b.ended
      rw [opened] at told
      refine ⟨fun _ => ⟨path, handle, rfl, opens, told.2, handle_one_line handle, handle.parse_text, ?_⟩,
        fun failed => absurd told.1 failed⟩
      · intro ended
        have e : EndedBy ended (trySettings path
            (fun settings => tryFinish settings handle.text status.token ttl.minutes remoteHost) begun.host []) := by
          simp only [ended, interpret, ofArguments_endLine, hp]
          exact execute_endedBy rfl begun.host
        rw [b.host_eq] at e
        exact ⟨e.host_eq.trans (same_host.trans r.host_eq.symm), e.code_eq.trans (same_code.trans r.code_eq.symm)⟩
    · have told := b.ended
      rw [failed] at told
      refine ⟨fun succeeded => absurd (told.1.symm.trans succeeded) (Trouble.code_ne_zero _), fun _ => ⟨?_, ?_⟩⟩
      · exact r.host_eq.trans (same_host.trans b.host_eq.symm)
      · rw [r.code_eq, b.code_eq, Course.code, Course.code, failed, failed']

/-- a client that prints a handle, and one that ends with 70 -/
theorem split_lifecycle_client :
    let status : Status := ⟨"OKAY", by decide⟩
    let ttl : Ttl := ⟨5, by decide⟩
    let works := clientHost " r.snff\n" 0
    let fails := clientHost "down" 70
    ((interpret (beginLine none) [] works).code = 0 ∧
      ∃ handle, (interpret (beginLine none) [] works).output = handle ++ "\n" ∧
        (interpret (endLine none handle status ttl (some "-a")) [] (interpret (beginLine none) [] works).host).host =
          (interpret (runLine none status ttl (some "-a")) [] works).host) ∧
    ((interpret (beginLine (some "/none")) [] fails).code ≠ 0 ∧
      (interpret (runLine (some "/none") status ttl none) [] fails).code =
        (interpret (beginLine (some "/none")) [] fails).code) := by
  intro status ttl works fails
  have begun : (interpret (beginLine none) [] works).code = 0 := by decide +kernel
  have failed : (interpret (beginLine (some "/none")) [] fails).code ≠ 0 := by decide +kernel
  obtain ⟨_, handle, -, -, output, -, -, host_eq, -⟩ :=
    (split_lifecycle none status ttl (some "-a") works [] [] []).1 begun
  have alike := (split_lifecycle (some "/none") status ttl none fails [] [] []).2 failed
  exact ⟨⟨begun, handle.text, output, host_eq⟩, failed, alike.2⟩

end CheckReport.CommandLine
