/-
The steps of a command.

The commands of a record's life try one step after another and stop at the first that fails. Here this is said without
sessions, services and failures under headings: what each step tries on a host (`attempt`), for which trouble it may
fail (`Step.admits`), with which exit code the trouble ends the program (`Trouble.code`), and in which order the steps
stand (`order`). That the commands do the same is proved elsewhere.

- `attempt_follows`, `tryLines_follows`: a step in front of others stands in front of them in the order as well.
- `tries_follow`: the steps of every command are passed in their order, up to the first that fails.
-/
import CheckReport.CommandLine.Execution
import Mathlib.Tactic

namespace CheckReport.CommandLine

open Text.Utf8 (Bytes)

/-! ## Steps and troubles -/

inductive Step where
  | settings
  | input
  | handle
  | status
  | ttl
  | search
  | opening
  | line (text : String)
  | submission
  deriving DecidableEq, Repr

/-- why a step fails -/
inductive Trouble where
  | settings (fault : Settings.Fault)
  | input (fault : Text.Utf8.Fault)
  | argument (fault : ArgumentFault)
  | file (fault : Disk.Fault)
  /-- the program could not be started -/
  | notStarted (fault : Disk.Fault)
  /-- the program did not end in time -/
  | overdue
  /-- the program ended with a code other than 0 -/
  | exited (code : ℕ)
  /-- a signal ended the program -/
  | killed
  /-- the program ended with 0 and printed no handle that can be used -/
  | noHandle
  deriving DecidableEq, Repr

/-- the exit code for a trouble; that of the program is passed on if it fits into a byte -/
def Trouble.code : Trouble → ℕ
  | .settings _ => 78
  | .input _ => 1
  | .argument _ => 64
  | .file _ => 74
  | .notStarted _ => 69
  | .overdue => 69
  | .exited code => if 1 ≤ code ∧ code ≤ 255 then code else 1
  | .killed => 1
  | .noHandle => 1

theorem Trouble.code_ne_zero (trouble : Trouble) : trouble.code ≠ 0 := by
  cases trouble with
  | exited n =>
    simp only [code]
    split <;> omega
  | _ => simp [code]

/-- the code 70 is only passed on -/
theorem Trouble.code_eq_seventy {trouble : Trouble} (h : trouble.code = 70) : trouble = .exited 70 := by
  cases trouble with
  | exited n =>
    simp only [code] at h
    split at h
    · rw [h]
    · cases h
  | _ => cases h

/-- the troubles for which a step may fail -/
def Step.admits : Step → Trouble → Bool
  | .settings, .settings _ => true
  | .input, .input _ => true
  | .handle, .argument _ => true
  | .status, .argument _ => true
  | .ttl, .argument _ => true
  | .search, .settings _ => true
  | .line _, .file _ => true
  | .opening, .noHandle => true
  | .opening, trouble | .submission, trouble =>
    match trouble with
    | .notStarted _ | .overdue | .exited _ | .killed => true
    | _ => false
  | _, _ => false

/-! ## One step after another -/

/-- how far a command came: the steps that it passed, and its value or the step that failed -/
structure Course (α : Type) where
  passed : List Step
  result : Except (Step × Trouble) α
  host : Host

/-- steps still to be tried on a host, behind those that were passed -/
abbrev Tries (α : Type) := Host → List Step → Course α

variable {α β : Type}

def done (value : α) : Tries α := fun host passed => ⟨passed, .ok value, host⟩

/-- try a step, and go on if it succeeds -/
def attempt (step : Step) (act : Host → Except Trouble α × Host) (next : α → Tries β) : Tries β := fun host passed =>
  match act host with
  | (.error trouble, after) => ⟨passed, .error (step, trouble), after⟩
  | (.ok value, after) => next value after (passed ++ [step])

/-- try a step that does nothing to the host -/
def check (step : Step) (look : Host → Except Trouble α) (next : α → Tries β) : Tries β :=
  attempt step (fun host => (look host, host)) next

/-! ## What the steps try -/

/-- run the program of a collector and take its output -/
def launch (c : CommandCollector) (arguments : List String) (host : Host) : Except Trouble Bytes × Host :=
  match host.run c.program (arguments.map Text.Utf8.encode) with
  | (.error fault, after) => (.error (.notStarted fault), after)
  | (.ok response, after) =>
    match response.ending with
    | .running => (.error .overdue, after)
    | .killed => (.error .killed, after)
    | .exited 0 => (.ok response.stdout, after)
    | .exited code => (.error (.exited code), after)

/-- the handle of an output with one line that is not blank -/
def usableHandle (stdout : Bytes) : Option Handle :=
  match ((Text.lines (Text.Utf8.lossy stdout)).map Text.trim).filter fun line => !line.toList.isEmpty with
  | [line] => (Handle.parse line).toOption
  | _ => none

def tryOpen (c : CommandCollector) (host : Host) : Except Trouble Handle × Host :=
  match launch c c.openArguments host with
  | (.error trouble, after) => (.error trouble, after)
  | (.ok stdout, after) =>
    match usableHandle stdout with
    | some handle => (.ok handle, after)
    | none => (.error .noHandle, after)

def trySubmit (c : CommandCollector) (handle : Handle) (status : Status) (ttl : Ttl) (host : Host) :
    Except Trouble Unit × Host :=
  match launch c (c.submitArguments handle status ttl) host with
  | (.error trouble, after) => (.error trouble, after)
  | (.ok _, after) => (.ok (), after)

def tryLine (handle : Handle) (text : String) (host : Host) : Except Trouble Unit × Host :=
  let (result, disk) := Record.appendLine handle text host.disk
  (result.mapError .file, { host with disk := disk })

/-- the collector that the settings name, with the remote host of the command line if it names one -/
def trySearch (settings : Settings) (remoteHost : Option String) (host : Host) : Except Trouble CommandCollector :=
  (CommandCollector.resolve
    { settings.collector with remoteHost := remoteHost.or settings.collector.remoteHost } host).mapError .settings

/-! ## The commands -/

def tryLines (handle : Handle) (next : Tries α) : List String → Tries α
  | [] => next
  | text :: texts => attempt (.line text) (tryLine handle text) fun _ => tryLines handle next texts

/-- the steps of a report whose lines are known -/
def tryReport (settings : Settings) (remoteHost : Option String) (token : String) (minutes : ℤ) (lines : List String) :
    Tries (Option Handle) :=
  check .status (fun _ => (Status.parse token).mapError .argument) fun status =>
  check .ttl (fun _ => (Ttl.ofMinutes minutes).mapError .argument) fun ttl =>
  check .search (trySearch settings remoteHost) fun c =>
  attempt .opening (tryOpen c) fun handle =>
  tryLines handle (attempt .submission (trySubmit c handle status ttl) fun _ => done (some handle)) lines

/-- read standard input, if that is asked for -/
def tryInput (stdin : Bool) (input : Bytes) (next : List String → Tries α) : Tries α :=
  if stdin then check .input (fun _ => (inputLines input).mapError .input) next else next []

def tryBegin (settings : Settings) : Tries (Option Handle) :=
  check .search (trySearch settings none) fun c =>
  attempt .opening (tryOpen c) fun handle =>
  done (some handle)

def tryFinish (settings : Settings) (raw token : String) (minutes : ℤ) (remoteHost : Option String) :
    Tries (Option Handle) :=
  check .handle (fun _ => (Handle.parse raw).mapError .argument) fun handle =>
  check .search (trySearch settings remoteHost) fun c =>
  check .status (fun _ => (Status.parse token).mapError .argument) fun status =>
  check .ttl (fun _ => (Ttl.ofMinutes minutes).mapError .argument) fun ttl =>
  attempt .submission (trySubmit c handle status ttl) fun _ =>
  done none

/-- read the settings -/
def trySettings (config : Path) (next : Settings → Tries α) : Tries α :=
  check .settings (fun host => (Settings.load config host.disk).mapError .settings) next

/-- all that a command tries; only the commands of a record's life are made of steps -/
def tries? (config : Path) (input : Bytes) : Command → Option (Tries (Option Handle))
  | .run token minutes lines stdin remoteHost => some <|
    trySettings config fun settings =>
    tryInput stdin input fun more =>
    tryReport settings remoteHost token minutes (lines ++ more)
  | .begin => some (trySettings config tryBegin)
  | .finish raw token minutes remoteHost => some <|
    trySettings config fun settings =>
    tryFinish settings raw token minutes remoteHost
  | _ => none

/-- the order of the steps of a command; of an input that cannot be read no line is added -/
def order (input : Bytes) : Command → List Step
  | .run _ _ lines stdin _ =>
    [.settings] ++ (if stdin then [.input] else []) ++ [.status, .ttl, .search, .opening] ++
      (lines ++ if stdin then (inputLines input).toOption.getD [] else []).map .line ++ [.submission]
  | .begin => [.settings, .search, .opening]
  | .finish _ _ _ _ => [.settings, .handle, .search, .status, .ttl, .submission]
  | _ => []

/-! ## Steps are passed in their order -/

/-- steps are tried in the order `steps`: all of them are passed if there is a value, which is as it should be; else those
in front of the one that fails are, and it fails for a trouble that it may have -/
def Follows (tries : Tries α) (steps : List Step) (good : α → Prop) : Prop := ∀ host passed,
  match (tries host passed).result with
  | .ok value => (tries host passed).passed = passed ++ steps ∧ good value
  | .error (step, trouble) =>
    (tries host passed).passed ++ [step] <+: passed ++ steps ∧ step.admits trouble = true

variable {good : α → Prop}

theorem done_follows {value : α} (h : good value) : Follows (done value) [] good :=
  fun _ passed => ⟨(List.append_nil passed).symm, h⟩

theorem attempt_follows {step : Step} {act : Host → Except Trouble β × Host} {next : β → Tries α} {steps : List Step}
    (fails : ∀ host trouble, (act host).1 = .error trouble → step.admits trouble = true)
    (goes : ∀ host value, (act host).1 = .ok value → Follows (next value) steps good) :
    Follows (attempt step act next) (step :: steps) good := by
  intro host passed
  unfold attempt
  rcases h : act host with ⟨result, after⟩
  cases result with
  | error trouble =>
    refine ⟨?_, fails host trouble (congrArg Prod.fst h)⟩
    exact (List.prefix_append_right_inj passed).2 (List.prefix_append [step] steps)
  | ok value =>
    have later := goes host value (congrArg Prod.fst h) after (passed ++ [step])
    rw [List.append_assoc] at later
    exact later

theorem mapError_eq_error {ε ε' : Type} {result : Except ε α} {f : ε → ε'} {e' : ε'}
    (h : result.mapError f = .error e') : ∃ e, result = .error e ∧ f e = e' := by
  cases result with
  | error e => exact ⟨e, rfl, by cases h; rfl⟩
  | ok value => cases h

theorem mapError_eq_ok {ε ε' : Type} {result : Except ε α} {f : ε → ε'} {value : α}
    (h : result.mapError f = .ok value) : result = .ok value := by
  cases result with
  | error e => cases h
  | ok value' => cases h; rfl

/-- a step that reads something fails for the fault of what it reads -/
theorem check_follows {ε : Type} {step : Step} {look : Host → Except ε β} {trouble : ε → Trouble} {next : β → Tries α}
    {steps : List Step} (fails : ∀ fault, step.admits (trouble fault) = true)
    (goes : ∀ host value, look host = .ok value → Follows (next value) steps good) :
    Follows (check step (fun host => (look host).mapError trouble) next) (step :: steps) good := by
  refine attempt_follows (fun host t h => ?_) (fun host value h => goes host value (mapError_eq_ok h))
  obtain ⟨fault, -, rfl⟩ := mapError_eq_error h
  exact fails fault

theorem tryLines_follows {handle : Handle} {next : Tries α} {steps : List Step} (h : Follows next steps good)
    (lines : List String) : Follows (tryLines handle next lines) (lines.map .line ++ steps) good := by
  induction lines with
  | nil => exact h
  | cons text lines ih =>
    refine attempt_follows (fun host trouble ht => ?_) (fun _ _ _ => ih)
    obtain ⟨fault, -, rfl⟩ := mapError_eq_error ht
    rfl

/-- a run of the program fails for a trouble of programs -/
theorem launch_fails {c : CommandCollector} {arguments : List String} {host : Host} {trouble : Trouble}
    (h : (launch c arguments host).1 = .error trouble) :
    Step.opening.admits trouble = true ∧ Step.submission.admits trouble = true := by
  unfold launch at h
  split at h
  · cases h
    exact ⟨rfl, rfl⟩
  · split at h <;> cases h <;> exact ⟨rfl, rfl⟩

theorem tryOpen_fails {c : CommandCollector} {host : Host} {trouble : Trouble}
    (h : (tryOpen c host).1 = .error trouble) : Step.opening.admits trouble = true := by
  unfold tryOpen at h
  split at h
  · rename_i hl
    cases h
    exact (launch_fails (congrArg Prod.fst hl)).1
  · split at h <;> cases h
    rfl

theorem trySubmit_fails {c : CommandCollector} {handle : Handle} {status : Status} {ttl : Ttl} {host : Host}
    {trouble : Trouble} (h : (trySubmit c handle status ttl host).1 = .error trouble) :
    Step.submission.admits trouble = true := by
  unfold trySubmit at h
  split at h
  · rename_i hl
    cases h
    exact (launch_fails (congrArg Prod.fst hl)).2
  · cases h

theorem tryReport_follows (settings : Settings) (remoteHost : Option String) (token : String) (minutes : ℤ)
    (lines : List String) : Follows (tryReport settings remoteHost token minutes lines)
      ([.status, .ttl, .search, .opening] ++ lines.map .line ++ [.submission]) (·.isSome = true) := by
  refine check_follows (fun _ => rfl) fun _ status _ => ?_
  refine check_follows (fun _ => rfl) fun _ ttl _ => ?_
  refine check_follows (fun _ => rfl) fun _ c _ => ?_
  refine attempt_follows (fun _ _ => tryOpen_fails) fun _ handle _ => ?_
  refine tryLines_follows ?_ lines
  exact attempt_follows (fun _ _ => trySubmit_fails) fun _ _ _ => done_follows rfl

theorem tryBegin_follows (settings : Settings) :
    Follows (tryBegin settings) [.search, .opening] (·.isSome = true) := by
  refine check_follows (fun _ => rfl) fun _ c _ => ?_
  exact attempt_follows (fun _ _ => tryOpen_fails) fun _ handle _ => done_follows rfl

theorem tryFinish_follows (settings : Settings) (raw token : String) (minutes : ℤ) (remoteHost : Option String) :
    Follows (tryFinish settings raw token minutes remoteHost) [.handle, .search, .status, .ttl, .submission]
      (·.isSome = false) := by
  refine check_follows (fun _ => rfl) fun _ handle _ => ?_
  refine check_follows (fun _ => rfl) fun _ c _ => ?_
  refine check_follows (fun _ => rfl) fun _ status _ => ?_
  refine check_follows (fun _ => rfl) fun _ ttl _ => ?_
  exact attempt_follows (fun _ _ => trySubmit_fails) fun _ _ _ => done_follows rfl

/-- a command that prints the handle of the record when all has gone well -/
def prints : Command → Bool
  | .run _ _ _ _ _ => true
  | .begin => true
  | _ => false

/-- **Steps are passed in their order**, up to the first that fails. -/
theorem tries_follow {config : Path} {input : Bytes} {command : Command} {tries : Tries (Option Handle)}
    (h : tries? config input command = some tries) :
    Follows tries (order input command) (·.isSome = prints command) := by
  cases command with
  | run token minutes lines stdin remoteHost =>
    cases h
    refine check_follows (fun _ => rfl) fun _ settings _ => ?_
    cases stdin with
    | false => exact tryReport_follows settings remoteHost token minutes (lines ++ [])
    | true =>
      refine check_follows (fun _ => rfl) fun _ more hm => ?_
      simp only [if_true, hm]
      exact tryReport_follows settings remoteHost token minutes (lines ++ more)
  | begin =>
    cases h
    exact check_follows (fun _ => rfl) fun _ settings _ => tryBegin_follows settings
  | finish raw token minutes remoteHost =>
    cases h
    exact check_follows (fun _ => rfl) fun _ settings _ => tryFinish_follows settings raw token minutes remoteHost
  | sweep dir maxAgeMins json => cases h
  | initConfig path => cases h

end CheckReport.CommandLine
