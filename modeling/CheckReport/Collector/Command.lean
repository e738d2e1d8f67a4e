/-
The collector that is a program.

Each call is one run of the program: its own arguments first, then what the call asks for. A run that cannot start or
does not end in time makes the collector unavailable; a run that ends is an answer.
-/
import CheckReport.Collector.Answer
import CheckReport.Collector.Service
import CheckReport.Collector.Start
import CheckReport.Settings.Basic

namespace CheckReport

structure CommandCollector where
  program : Path
  /-- arguments in front of those of each call -/
  args : List String
  /-- how long one run may take -/
  timeout : Time.Span
  remoteHost : Option String
  deriving DecidableEq, Repr

/-- the answer of a run that ended -/
def Response.answer? (response : Response) : Option Answer :=
  let stdout := Text.Utf8.lossy response.stdout
  let stderr := Text.Utf8.lossy response.stderr
  match response.ending with
  | .exited code => some ⟨stdout, stderr, some code, code = 0⟩
  | .killed => some ⟨stdout, stderr, none, false⟩
  | .running => none

namespace CommandCollector

/-- a collector that may take a minute and submits on this machine -/
def ofProgram (program : Path) (args : List String) : CommandCollector := ⟨program, args, .ofSeconds 60, none⟩

/-- the collector that the settings name, its program looked up -/
def resolve (settings : Settings.Collector) (host : Host) : Except Settings.Fault CommandCollector :=
  match settings.check with
  | .error fault => .error fault
  | .ok () =>
    match host.find? (.ofString settings.program) with
    | none => .error (.programNotFound settings.program)
    | some program => .ok ⟨program, settings.args, .ofSeconds settings.timeoutSecs, settings.remoteHost⟩

def openArguments (c : CommandCollector) : List String := c.args ++ ["-b"]

def submitArguments (c : CommandCollector) (handle : Handle) (status : Status) (ttl : Ttl) : List String :=
  let address := match c.remoteHost with
    | some name => ["-a", name]
    | none => []
  c.args ++ ["-e", "-f", handle.text, "-s", status.token, "-t", ttl.text] ++ address

/-- run the program once and read its answer -/
def call {α : Type} (c : CommandCollector) (phase : Phase) (arguments : List String)
    (read : Answer → Except Error α) (host : Host) : Reply Host α :=
  match host.run c.program (arguments.map Text.Utf8.encode) with
  | (.error fault, after) =>
    ⟨.error (.unavailable phase s!"failed to execute {c.program.display}: {fault.message}"), after, []⟩
  | (.ok response, after) =>
    match response.answer? with
    | some answer => ⟨read answer, after, []⟩
    | none =>
      ⟨.error (.unavailable phase s!"timed out after {c.timeout.secondsText}s"), after,
        [Log.warn s!"Collector timed out after {c.timeout.compact}"]⟩

/-- the collector on a host -/
def service (c : CommandCollector) : Collector Host where
  openRecord := c.call .begin c.openArguments Answer.handle
  submitRecord handle status ttl := c.call .finish (c.submitArguments handle status ttl) Answer.submitted

end CommandCollector

end CheckReport
