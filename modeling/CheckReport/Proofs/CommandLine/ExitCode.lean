/-
How the commands of a record's life end.

What a command does through sessions and services is what its steps do one by one, and its exit code is that of the
first step that fails.

- `call_cases`: a call of a collector is a run of its program, whose end decides the exit code.
- `appendAll_tryLines`, `report_agrees`, `openOnly_agrees`, `close_agrees`: the operations agree with the steps.
- `first_failure_decides`: the exit code, the output and the host that are left, for all command lines, inputs and hosts.
-/
import CheckReport.Proofs.Collector.Outcomes
import CheckReport.Proofs.CommandLine.Steps
import CheckReport.Proofs.Session.Course

namespace CheckReport.CommandLine

open Session (Outcome Services appendAll append_cases begin_cases submit_cases)
open Text.Utf8 (Bytes)

variable {α : Type}

/-! ## Calls of a collector -/

/-- an operation and a step that end alike: with the same value, or with the same exit code -/
inductive Corresponds : Except Error α → Except Trouble α → Prop where
  | ok (value : α) : Corresponds (.ok value) (.ok value)
  | error {e : Error} {trouble : Trouble} (code_eq : (Cause.operation e).exitCode = trouble.code) :
    Corresponds (.error e) (.error trouble)

/-- the code of a program is passed on -/
theorem exitCode_rejected {phase : Phase} {diagnostic : String} {code : ℕ} (h : code ≠ 0) :
    (Cause.operation (.rejected phase (some (code : ℤ)) diagnostic)).exitCode = (Trouble.exited code).code := by
  have nonzero : ((code : ℕ) : ℤ) ≠ 0 := by exact_mod_cast h
  simp only [Cause.exitCode, Error.exitCode, if_neg nonzero, Trouble.code]
  by_cases fits : code ≤ 255
  · have low : 1 ≤ code := by omega
    simp [fits, low]
  · have high : ¬ (code : ℤ) ≤ 255 := by omega
    simp [fits, high]

/-- all that a call can do: the program ended with 0 and its output is read, or a trouble stopped it; `read` rejects the
answers that are no success -/
theorem call_cases (c : CommandCollector) (phase : Phase) (arguments : List String) {read : Answer → Except Error α}
    (rejects : ∀ answer, answer.success = false →
      ∃ phase diagnostic, read answer = .error (.rejected phase answer.code diagnostic)) (host : Host) :
    (∃ stdout answer after, launch c arguments host = (.ok stdout, after) ∧ answer.success = true ∧
      answer.code = some 0 ∧ answer.stdout = Text.Utf8.lossy stdout ∧
      (c.call phase arguments read host).result = read answer ∧ (c.call phase arguments read host).world = after) ∨
    (∃ trouble e after, launch c arguments host = (.error trouble, after) ∧
      (Cause.operation e).exitCode = trouble.code ∧
      (c.call phase arguments read host).result = .error e ∧ (c.call phase arguments read host).world = after) := by
  unfold launch CommandCollector.call
  rcases host.run c.program (arguments.map Text.Utf8.encode) with ⟨result, after⟩
  cases result with
  | error fault => exact Or.inr ⟨.notStarted fault, _, after, rfl, rfl, rfl, rfl⟩
  | ok response =>
    obtain ⟨stdout, stderr, ending⟩ := response
    cases ending with
    | running => exact Or.inr ⟨.overdue, _, after, rfl, rfl, rfl, rfl⟩
    | killed =>
      obtain ⟨phase', diagnostic, hr⟩ := rejects ⟨Text.Utf8.lossy stdout, Text.Utf8.lossy stderr, none, false⟩ rfl
      exact Or.inr ⟨.killed, _, after, rfl, rfl, hr, rfl⟩
    | exited code =>
      cases code with
      | zero => exact Or.inl ⟨stdout, ⟨Text.Utf8.lossy stdout, Text.Utf8.lossy stderr, some 0, true⟩, after, rfl, rfl, rfl,
          rfl, rfl, rfl⟩
      | succ n =>
        obtain ⟨phase', diagnostic, hr⟩ :=
          rejects ⟨Text.Utf8.lossy stdout, Text.Utf8.lossy stderr, some ((n + 1 : ℕ) : ℤ), false⟩ rfl
        exact Or.inr ⟨.exited (n + 1), _, after, rfl, exitCode_rejected (Nat.succ_ne_zero n), hr, rfl⟩

/-- an answer that is a success gives the handle of its output, or ends with 1 -/
theorem handle_corresponds {answer : Answer} {stdout : Bytes} (success : answer.success = true)
    (code : answer.code = some 0) (printed : answer.stdout = Text.Utf8.lossy stdout) :
    Corresponds answer.handle (match usableHandle stdout with
      | some handle => .ok handle
      | none => .error .noHandle) := by
  have lines : ((Text.lines (Text.Utf8.lossy stdout)).map Text.trim).filter (fun line => !line.toList.isEmpty) =
      answer.lines := by
    rw [Answer.lines, printed]
  unfold Answer.handle usableHandle
  rw [lines, success, code]
  simp only [Bool.not_true, Bool.false_eq_true, if_false]
  rcases answer.lines with _ | ⟨line, _ | ⟨second, rest⟩⟩
  · exact .error rfl
  · cases h : Handle.parse line with
    | ok handle =>
      simp only [h, Except.toOption]
      exact .ok handle
    | error fault =>
      simp only [h, Except.toOption]
      exact .error rfl
  · exact .error rfl

theorem openRecord_corresponds (c : CommandCollector) (host : Host) :
    Corresponds (c.service.openRecord host).result (tryOpen c host).1 ∧
      (c.service.openRecord host).world = (tryOpen c host).2 := by
  unfold tryOpen
  rcases call_cases c .begin c.openArguments (fun _ h => ⟨_, _, Answer.handle_of_failure h⟩) host with
    ⟨stdout, answer, after, hl, success, code, printed, hr, hw⟩ | ⟨trouble, e, after, hl, code, hr, hw⟩
  · have corresponds := handle_corresponds success code printed
    rw [hl]
    simp only [CommandCollector.service, hr, hw]
    cases hu : usableHandle stdout with
    | some handle =>
      rw [hu] at corresponds
      exact ⟨corresponds, rfl⟩
    | none =>
      rw [hu] at corresponds
      exact ⟨corresponds, rfl⟩
  · rw [hl]
    simp only [CommandCollector.service, hr, hw, and_true]
    exact .error code

theorem submitRecord_corresponds (c : CommandCollector) (handle : Handle) (status : Status) (ttl : Ttl) (host : Host) :
    Corresponds (c.service.submitRecord handle status ttl host).result (trySubmit c handle status ttl host).1 ∧
      (c.service.submitRecord handle status ttl host).world = (trySubmit c handle status ttl host).2 := by
  unfold trySubmit
  rcases call_cases c .finish (c.submitArguments handle status ttl)
    (fun _ h => ⟨_, _, Answer.submitted_of_failure h⟩) host with
    ⟨stdout, answer, after, hl, success, -, -, hr, hw⟩ | ⟨trouble, e, after, hl, code, hr, hw⟩
  · rw [hl]
    simp only [CommandCollector.service, hr, hw, and_true]
    rw [Answer.submitted, if_pos success]
    exact .ok ()
  · rw [hl]
    simp only [CommandCollector.service, hr, hw, and_true]
    exact .error code

/-! ## Operations of a session -/

/-- an operation of a session did what a step did -/
structure Alike (outcome : Outcome Host α) (tried : Except Trouble α × Host) : Prop where
  result : Corresponds outcome.result tried.1
  world_eq : outcome.world = tried.2

/-- to begin a new session is to have the program open a record -/
theorem begin_alike (c : CommandCollector) (host : Host) :
    Alike (Session.begin (Host.services c) Session.new host) (tryOpen c host) ∧
      ∀ handle, (Session.begin (Host.services c) Session.new host).result = .ok handle →
        (Session.begin (Host.services c) Session.new host).session = ⟨.opened handle, 0⟩ := by
  obtain ⟨corresponds, world⟩ := openRecord_corresponds c host
  rcases begin_cases (Host.services c) Session.new host with ⟨n, handle, hn, hr, h⟩ | ⟨n, e, hn, hr, h⟩ | ⟨hn, -⟩
  · cases hn
    rw [h]
    refine ⟨⟨hr ▸ corresponds, world⟩, ?_⟩
    rintro handle' h'
    cases h'
    rfl
  · rw [h]
    refine ⟨⟨hr ▸ corresponds, world⟩, ?_⟩
    rintro handle' h'
    cases h'
  · exact absurd rfl hn

/-- to submit through an open session is to have the program take the record -/
theorem submit_alike (c : CommandCollector) (handle : Handle) (n : ℕ) (status : Status) (ttl : Ttl) (host : Host) :
    Alike (Session.submit (Host.services c) status ttl ⟨.opened handle, n⟩ host) (trySubmit c handle status ttl host) := by
  obtain ⟨corresponds, world⟩ := submitRecord_corresponds c handle status ttl host
  rcases submit_cases (Host.services c) status ttl ⟨.opened handle, n⟩ host with
    ⟨n', handle', hn, hr, h⟩ | ⟨n', handle', e, hn, hr, h⟩ | ⟨hn, -⟩
  · cases hn
    rw [h]
    exact ⟨hr ▸ corresponds, world⟩
  · cases hn
    rw [h]
    exact ⟨hr ▸ corresponds, world⟩
  · cases hn

/-- to add lines through an open session is to try them one by one -/
theorem appendAll_tryLines (c : CommandCollector) (handle : Handle) {next : Tries α} (lines : List String) (n : ℕ)
    (host : Host) (passed : List Step) :
    let writing := appendAll (Host.services c) ⟨.opened handle, n⟩ host lines
    (writing.result = .ok () ∧ (∃ k, writing.session = ⟨.opened handle, k⟩) ∧
      ∃ all, tryLines handle next lines host passed = next writing.world all) ∨
    ∃ fault all text, writing.result = .error (.file fault) ∧
      tryLines handle next lines host passed = ⟨all, .error (.line text, .file fault), writing.world⟩ := by
  induction lines generalizing n host passed with
  | nil => exact Or.inl ⟨rfl, ⟨n, rfl⟩, passed, rfl⟩
  | cons text lines ih =>
    rw [tryLines, attempt]
    rcases append_cases (Host.services c) text ⟨.opened handle, n⟩ host with
      ⟨k, handle', hs, hr, h⟩ | ⟨k, handle', fault, hs, hr, h⟩ | ⟨hs, -⟩
    · cases hs
      have goes : (Session.append (Host.services c) text ⟨.opened handle, n⟩ host).result = .ok () := by rw [h]
      have tried : tryLine handle text host = (.ok (), ((Host.services c).appendLine handle text host).2) := by
        have ok : (Record.appendLine handle text host.disk).1 = .ok () := hr
        simp only [tryLine, ok]
        rfl
      rw [tried, appendAll, Outcome.andThen_of_ok goes, h]
      exact ih (n + 1) _ (passed ++ [.line text])
    · cases hs
      have stops : (Session.append (Host.services c) text ⟨.opened handle, n⟩ host).result = .error (.file fault) := by
        rw [h]
      have tried : tryLine handle text host =
          (.error (.file fault), ((Host.services c).appendLine handle text host).2) := by
        have error : (Record.appendLine handle text host.disk).1 = .error fault := hr
        simp only [tryLine, error]
        rfl
      rw [tried, appendAll, Outcome.andThen_of_error stops, h]
      exact Or.inr ⟨fault, passed, text, rfl, rfl⟩
    · cases hs

/-! ## Commands -/

/-- a command did what its steps did: it printed the handle of their value, or ended with the code of their trouble -/
structure Agrees (finished : Finished Host α) (course : Course (Option Handle)) : Prop where
  world_eq : finished.world = course.host
  ended : match course.result with
    | .ok value => finished.result.isOk = true ∧ finished.output = value.elim "" printed
    | .error (_, trouble) =>
      finished.output = "" ∧ ∃ failure, finished.result = .error failure ∧ failure.exitCode = trouble.code

/-- a command that a step stopped -/
theorem agrees_of_error {finished : Finished Host α} {failure : Failure} {passed : List Step} {step : Step}
    {trouble : Trouble} {host : Host} (result : finished.result = .error failure) (output : finished.output = "")
    (code : failure.exitCode = trouble.code) (world : finished.world = host) :
    Agrees finished ⟨passed, .error (step, trouble), host⟩ := ⟨world, output, failure, result, code⟩

section Attempts

variable {β γ : Type} {step : Step} {next : β → Tries γ} {host : Host} {passed : List Step}

theorem check_ok {look : Host → Except Trouble β} {value : β} (h : look host = .ok value) :
    check step look next host passed = next value host (passed ++ [step]) := by
  simp only [check, attempt, h]

theorem check_error {look : Host → Except Trouble β} {trouble : Trouble} (h : look host = .error trouble) :
    check step look next host passed = ⟨passed, .error (step, trouble), host⟩ := by
  simp only [check, attempt, h]

theorem attempt_ok {act : Host → Except Trouble β × Host} {value : β} {after : Host} (h : act host = (.ok value, after)) :
    attempt step act next host passed = next value after (passed ++ [step]) := by
  simp only [attempt, h]

theorem attempt_error {act : Host → Except Trouble β × Host} {trouble : Trouble} {after : Host}
    (h : act host = (.error trouble, after)) :
    attempt step act next host passed = ⟨passed, .error (step, trouble), after⟩ := by
  simp only [attempt, h]

end Attempts

/-- an operation that did what a step did succeeds with it, or fails with the same code -/
theorem alike_cases {outcome : Outcome Host α} {tried : Except Trouble α × Host} (alike : Alike outcome tried) :
    (∃ value, outcome.result = .ok value ∧ tried = (.ok value, outcome.world)) ∨
    (∃ e trouble, outcome.result = .error e ∧ (Cause.operation e).exitCode = trouble.code ∧
      tried = (.error trouble, outcome.world)) := by
  obtain ⟨corresponds, world⟩ := alike
  obtain ⟨result, after⟩ := tried
  simp only at corresponds world
  rw [world]
  generalize outcome.result = answer at corresponds ⊢
  cases corresponds with
  | ok value => exact Or.inl ⟨value, rfl, rfl⟩
  | error code => exact Or.inr ⟨_, _, rfl, code, rfl⟩

theorem search_cases (settings : Settings) (remoteHost : Option String) (host : Host) :
    (∃ c, search settings remoteHost host = .ok (Host.services c) ∧ trySearch settings remoteHost host = .ok c) ∨
    ∃ fault, search settings remoteHost host = .error (.settings fault.message) ∧
      trySearch settings remoteHost host = .error (.settings fault) := by
  unfold search trySearch
  simp only
  cases CommandCollector.resolve
    { settings.collector with remoteHost := remoteHost.or settings.collector.remoteHost } host with
  | ok c => exact Or.inl ⟨c, rfl, rfl⟩
  | error fault => exact Or.inr ⟨fault, rfl, rfl⟩

/-- both arguments of a submission are read one after the other, or the first that cannot be read stops the command -/
theorem tryArguments {β : Type} (token : String) (minutes : ℤ) (next : Status → Ttl → Tries β) (host : Host)
    (passed : List Step) :
    let tried := (check .status (fun _ => (Status.parse token).mapError .argument) fun status =>
      check .ttl (fun _ => (Ttl.ofMinutes minutes).mapError .argument) (next status)) host passed
    (∃ status ttl, Status.parse token = .ok status ∧ Ttl.ofMinutes minutes = .ok ttl ∧
      tried = next status ttl host (passed ++ [.status] ++ [.ttl])) ∨
    (∃ fault all step, tried = ⟨all, .error (step, .argument fault), host⟩ ∧
      (Status.parse token = .error fault ∨
        ∃ status, Status.parse token = .ok status ∧ Ttl.ofMinutes minutes = .error fault)) := by
  intro tried
  cases hs : Status.parse token with
  | error fault =>
    refine Or.inr ⟨fault, passed, .status, check_error ?_, Or.inl rfl⟩
    rw [hs]
    rfl
  | ok status =>
    have first : tried = check .ttl (fun _ => (Ttl.ofMinutes minutes).mapError .argument) (next status) host
        (passed ++ [.status]) := by
      refine check_ok (show (Status.parse token).mapError Trouble.argument = .ok status from ?_)
      rw [hs]
      rfl
    rw [first]
    cases ht : Ttl.ofMinutes minutes with
    | error fault => exact Or.inr ⟨fault, passed ++ [.status], .ttl, check_error rfl, Or.inr ⟨status, rfl, rfl⟩⟩
    | ok ttl => exact Or.inl ⟨status, ttl, rfl, rfl, check_ok rfl⟩

theorem report_agrees (settings : Settings) (remoteHost : Option String) (token : String) (minutes : ℤ)
    (lines : List String) (host : Host) (passed : List Step) :
    Agrees (report (search settings remoteHost) token minutes lines host)
      (tryReport settings remoteHost token minutes lines host passed) := by
  unfold report tryReport
  rcases tryArguments token minutes _ host passed with
    ⟨status, ttl, hs, ht, tried⟩ | ⟨fault, all, step, tried, hs | ⟨status, hs, ht⟩⟩
  · rw [tried, hs, ht]
    rcases search_cases settings remoteHost host with ⟨c, found, searched⟩ | ⟨fault, found, searched⟩
    · rw [found, check_ok searched]
      obtain ⟨alike, opened⟩ := begin_alike c host
      rcases alike_cases alike with ⟨handle, hopen, tried⟩ | ⟨e, trouble, hopen, code, tried⟩
      · rw [attempt_ok tried]
        simp only [hopen, opened handle hopen]
        set opening := Session.begin (Host.services c) Session.new host
        rcases appendAll_tryLines c handle lines 0 opening.world _ with
          ⟨hwrite, ⟨k, written⟩, all, tried⟩ | ⟨fault, all, text, hwrite, tried⟩
        · rw [tried]
          simp only [hwrite, written]
          set writing := appendAll (Host.services c) ⟨.opened handle, 0⟩ opening.world lines
          rcases alike_cases (submit_alike c handle k status ttl writing.world) with
            ⟨⟨⟩, hsend, sent⟩ | ⟨e, trouble, hsend, code, sent⟩
          · rw [attempt_ok sent]
            simp only [hsend]
            exact ⟨rfl, rfl, rfl⟩
          · rw [attempt_error sent]
            simp only [hsend]
            exact agrees_of_error rfl rfl code rfl
        · rw [tried]
          simp only [hwrite]
          exact agrees_of_error rfl rfl rfl rfl
      · rw [attempt_error tried]
        simp only [hopen]
        exact agrees_of_error rfl rfl code rfl
    · rw [found, check_error searched]
      exact agrees_of_error rfl rfl rfl rfl
  · rw [tried, hs]
    exact agrees_of_error rfl rfl rfl rfl
  · rw [tried, hs, ht]
    exact agrees_of_error rfl rfl rfl rfl

theorem openOnly_agrees (settings : Settings) (host : Host) (passed : List Step) :
    Agrees (openOnly (search settings none) host) (tryBegin settings host passed) := by
  unfold openOnly tryBegin
  rcases search_cases settings none host with ⟨c, found, searched⟩ | ⟨fault, found, searched⟩
  · rw [found, check_ok searched]
    rcases alike_cases (begin_alike c host).1 with ⟨handle, hopen, tried⟩ | ⟨e, trouble, hopen, code, tried⟩
    · rw [attempt_ok tried]
      simp only [hopen]
      exact ⟨rfl, rfl, rfl⟩
    · rw [attempt_error tried]
      simp only [hopen]
      exact agrees_of_error rfl rfl code rfl
  · rw [found, check_error searched]
    exact agrees_of_error rfl rfl rfl rfl

theorem close_agrees (settings : Settings) (raw token : String) (minutes : ℤ) (remoteHost : Option String)
    (host : Host) (passed : List Step) :
    Agrees (close (search settings remoteHost) raw token minutes host)
      (tryFinish settings raw token minutes remoteHost host passed) := by
  unfold close tryFinish
  cases hh : Handle.parse raw with
  | error fault =>
    rw [check_error (show (Except.error fault : Except ArgumentFault Handle).mapError Trouble.argument = _ from rfl)]
    exact agrees_of_error rfl rfl rfl rfl
  | ok handle =>
    rw [check_ok (show (Except.ok handle : Except ArgumentFault Handle).mapError Trouble.argument = _ from rfl)]
    rcases search_cases settings remoteHost host with ⟨c, found, searched⟩ | ⟨fault, found, searched⟩
    · rw [found, check_ok searched]
      rcases tryArguments token minutes _ host _ with
        ⟨status, ttl, hs, ht, tried⟩ | ⟨fault, all, step, tried, hs | ⟨status, hs, ht⟩⟩
      · rw [tried]
        have finish : Session.finish (Host.services c) token minutes (Session.resume handle) host =
            Session.submit (Host.services c) status ttl ⟨.opened handle, 0⟩ host := by
          simp only [Session.finish, Session.resume, hs, ht]
        rcases alike_cases (submit_alike c handle 0 status ttl host) with
          ⟨⟨⟩, hsend, sent⟩ | ⟨e, trouble, hsend, code, sent⟩
        · rw [attempt_ok sent]
          simp only [finish, hsend]
          exact ⟨rfl, rfl, rfl⟩
        · rw [attempt_error sent]
          simp only [finish, hsend]
          exact agrees_of_error rfl rfl code rfl
      · rw [tried]
        have finish : Session.finish (Host.services c) token minutes (Session.resume handle) host =
            Session.refuse fault (Session.resume handle) host := by
          simp only [Session.finish, Session.resume, hs]
        simp only [finish, Session.refuse]
        exact agrees_of_error rfl rfl rfl rfl
      · rw [tried]
        have finish : Session.finish (Host.services c) token minutes (Session.resume handle) host =
            Session.refuse fault (Session.resume handle) host := by
          simp only [Session.finish, Session.resume, hs, ht]
        simp only [finish, Session.refuse]
        exact agrees_of_error rfl rfl rfl rfl
    · rw [found, check_error searched]
      exact agrees_of_error rfl rfl rfl rfl

/-! ## The whole program -/

/-- the program ended as the steps did -/
structure EndedBy (ended : Ended) (course : Course (Option Handle)) : Prop where
  host_eq : ended.host = course.host
  ended : match course.result with
    | .ok value => ended.code = 0 ∧ ended.output = value.elim "" printed
    | .error (_, trouble) => ended.code = trouble.code ∧ ended.output = ""

theorem ofFinished_endedBy {finished : Finished Host α} {course : Course (Option Handle)}
    (agrees : Agrees finished course) : EndedBy (.ofFinished finished) course := by
  obtain ⟨world, ended⟩ := agrees
  obtain ⟨passed, result, host⟩ := course
  obtain ⟨answer, after, output, trace⟩ := finished
  cases result with
  | ok value =>
    obtain ⟨yields, printed⟩ := ended
    cases answer with
    | ok => exact ⟨world, rfl, printed⟩
    | error failure => cases yields
  | error stopped =>
    obtain ⟨-, failure, hf, code⟩ := ended
    cases hf
    exact ⟨world, code, rfl⟩

/-- a program that a step stopped before the command did anything -/
theorem failed_endedBy {failure : Failure} {host : Host} {passed : List Step} {step : Step} {trouble : Trouble}
    (code : failure.exitCode = trouble.code) :
    EndedBy (.failed failure host []) ⟨passed, .error (step, trouble), host⟩ := ⟨rfl, code, rfl⟩

theorem execute_endedBy {invocation : Invocation} {input : Bytes} {tries : Tries (Option Handle)}
    (h : tries? invocation.config input invocation.command = some tries) (host : Host) :
    EndedBy (execute invocation input host) (tries host []) := by
  obtain ⟨verbose, config, command⟩ := invocation
  simp only at h
  unfold execute
  simp only
  cases hs : Settings.load config host.disk with
  | error fault =>
    have stopped : ∀ next : Settings → Tries (Option Handle), trySettings config next host [] =
        ⟨[], .error (.settings, .settings fault), host⟩ := fun next => check_error (by rw [hs]; rfl)
    cases command with
    | run token minutes lines stdin remoteHost =>
      cases h
      rw [stopped]
      exact failed_endedBy rfl
    | begin =>
      cases h
      rw [stopped]
      exact failed_endedBy rfl
    | finish raw token minutes remoteHost =>
      cases h
      rw [stopped]
      exact failed_endedBy rfl
    | sweep dir maxAgeMins json => cases h
    | initConfig path => cases h
  | ok settings =>
    have loaded : ∀ next : Settings → Tries (Option Handle), trySettings config next host [] =
        next settings host [.settings] := fun next => check_ok (by rw [hs]; rfl)
    cases command with
    | run token minutes lines stdin remoteHost =>
      cases h
      rw [loaded]
      cases stdin with
      | false => exact ofFinished_endedBy (report_agrees settings remoteHost token minutes (lines ++ []) host _)
      | true =>
        simp only [observations, tryInput, if_true]
        cases hi : inputLines input with
        | error fault =>
          have unread : (Except.error fault : Except _ (List String)).mapError Trouble.input = .error (.input fault) := rfl
          rw [check_error unread]
          exact failed_endedBy rfl
        | ok more =>
          have read : (Except.ok more : Except Text.Utf8.Fault _).mapError Trouble.input = .ok more := rfl
          rw [check_ok read]
          exact ofFinished_endedBy (report_agrees settings remoteHost token minutes (lines ++ more) host _)
    | begin =>
      cases h
      rw [loaded]
      exact ofFinished_endedBy (openOnly_agrees settings host _)
    | finish raw token minutes remoteHost =>
      cases h
      rw [loaded]
      exact ofFinished_endedBy (close_agrees settings raw token minutes remoteHost host _)
    | sweep dir maxAgeMins json => cases h
    | initConfig path => cases h

/-! ## Main result -/

/-- what the steps of a command say about how the program ends -/
structure DecidedBy (ended : Ended) (course : Course (Option Handle)) (command : Command) (steps : List Step) : Prop where
  /-- the host is left as the steps left it: a step behind the one that failed has no effect -/
  host_eq : ended.host = course.host
  /-- the program ends with 0 exactly if no step fails -/
  zero_iff : ended.code = 0 ↔ ∃ value, course.result = .ok value
  /-- if none fails, all were passed in their order, and the handle is printed on a line by the commands that print it;
  nothing else is -/
  succeeds : ∀ value, course.result = .ok value → course.passed = steps ∧ value.isSome = prints command ∧
    ended.output = value.elim "" fun handle => handle.text ++ "\n"
  /-- the first step that fails stands behind those that were passed, and its trouble, which is one that the step may
  have, decides the exit code; nothing is printed -/
  fails : ∀ step trouble, course.result = .error (step, trouble) →
    course.passed ++ [step] <+: steps ∧ step.admits trouble = true ∧ ended.code = trouble.code ∧ ended.output = ""
  /-- the exit code 70 is that of the program that was run -/
  seventy : ended.code = 70 → ∃ step, course.result = .error (step, .exited 70)

theorem decidedBy_of_endedBy {ended : Ended} {tries : Tries (Option Handle)} {host : Host} {command : Command}
    {steps : List Step} (h : EndedBy ended (tries host []))
    (follows : Follows tries steps (·.isSome = prints command)) :
    DecidedBy ended (tries host []) command steps := by
  obtain ⟨host_eq, ended_eq⟩ := h
  have followed := follows host []
  cases hr : (tries host []).result with
  | ok value =>
    rw [hr] at ended_eq followed
    refine { host_eq := host_eq, zero_iff := ?_, succeeds := ?_, fails := ?_, seventy := ?_ }
    · exact iff_of_true ended_eq.1 ⟨value, hr⟩
    · intro value' h'
      rw [hr] at h'
      cases h'
      exact ⟨followed.1, followed.2, ended_eq.2⟩
    · intro step trouble h'
      rw [hr] at h'
      cases h'
    · intro h'
      rw [ended_eq.1] at h'
      cases h'
  | error stopped =>
    obtain ⟨step, trouble⟩ := stopped
    rw [hr] at ended_eq followed
    have nonzero := trouble.code_ne_zero
    refine { host_eq := host_eq, zero_iff := ?_, succeeds := ?_, fails := ?_, seventy := ?_ }
    · refine iff_of_false (ended_eq.1 ▸ nonzero) ?_
      rintro ⟨value, h'⟩
      rw [hr] at h'
      cases h'
    · intro value h'
      rw [hr] at h'
      cases h'
    · intro step' trouble' h'
      rw [hr] at h'
      cases h'
      exact ⟨followed.1, followed.2, ended_eq.1, ended_eq.2⟩
    · intro h'
      rw [ended_eq.1] at h'
      exact ⟨step, by rw [hr, Trouble.code_eq_seventy h']⟩

/-- **The first step that fails decides how the program ends.** For every command line that makes an invocation of one of
the commands of a record's life, every input and every host, whatever its files and programs are. -/
theorem first_failure_decides (words : List String) (input : Bytes) (host : Host) (invocation : Invocation)
    (read : Invocation.ofArguments words = .ok invocation) (tries : Tries (Option Handle))
    (steps : tries? invocation.config input invocation.command = some tries) :
    DecidedBy (interpret words input host) (tries host []) invocation.command (order input invocation.command) := by
  have carried : interpret words input host = execute invocation input host := by
    unfold interpret
    rw [read]
  rw [carried]
  exact decidedBy_of_endedBy (execute_endedBy steps host) (tries_follow steps)

/-- a host with a client that prints a line and ends with a code, whatever it is asked -/
def clientHost (line : String) (code : ℕ) : Host :=
  let name : Disk.Name := Text.Utf8.encode "sn1ff_client"
  let client : Disk.Node := ⟨.file [], .newDirectory, ⟨0, 0⟩, ⟨0⟩⟩
  { Host.bare with
    disk := Host.bare.disk.put [name] client
    searchPath := Text.Utf8.encode "/"
    program? := fun loc => if loc = [name] then some fun _ _ _ => .ok ⟨Text.Utf8.encode line, [], .exited code⟩ else none }

/-- a report with a line from the command line and one from the input, of which the first cannot be added -/
theorem first_failure_decides_line :
    let words := ["run", "--status", "OKAY", "--ttl", "5", "--line", "a", "--stdin"]
    let input := Text.Utf8.encode "b\n"
    let invocation : Invocation := ⟨false, defaultConfig, .run "OKAY" 5 ["a"] true none⟩
    Invocation.ofArguments words = .ok invocation ∧
      (∃ tries, tries? invocation.config input invocation.command = some tries) ∧
      (interpret words input (clientHost "/nowhere/r" 0)).code = 74 ∧
      (interpret words input (clientHost "/nowhere/r" 0)).output = "" := by
  intro words input invocation
  have read : Invocation.ofArguments words = .ok invocation := by decide +kernel
  have decided := first_failure_decides words input (clientHost "/nowhere/r" 0) invocation read _ rfl
  obtain ⟨-, -, code, output⟩ := decided.fails (.line "a") (.file .notFound) (by decide +kernel)
  exact ⟨read, ⟨_, rfl⟩, code, output⟩

/-- a failure may end with 70: the client's code is passed on, whatever it is -/
theorem seventy_passed_on :
    Invocation.ofArguments ["begin"] = .ok ⟨false, defaultConfig, .begin⟩ ∧
      (interpret ["begin"] [] (clientHost "down" 70)).failure.isSome = true ∧
      (interpret ["begin"] [] (clientHost "down" 70)).code = 70 := by
  decide +kernel

end CheckReport.CommandLine
