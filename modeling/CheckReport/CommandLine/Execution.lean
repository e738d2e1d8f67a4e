/-
Carrying out a command line.

`execute` reads the settings and carries out the command of an invocation on a host; `interpret` does so for the words
of a command line. Either ends with an exit code, what is printed, and the host that is left.
-/
import CheckReport.CommandLine.Help
import CheckReport.CommandLine.Invocation
import CheckReport.CommandLine.Lifecycle
import CheckReport.Session.Places
import CheckReport.Settings.Store

namespace CheckReport.CommandLine

/-- how a run of the program ends -/
structure Ended where
  code : Nat
  /-- standard output -/
  output : String
  /-- the failure that is shown on standard error -/
  failure : Option Failure
  host : Host
  log : List Log.Entry

namespace Ended

def success (output : String) (host : Host) (log : List Log.Entry) : Ended := ⟨0, output, none, host, log⟩

def failed (failure : Failure) (host : Host) (log : List Log.Entry) : Ended :=
  ⟨failure.exitCode, "", some failure, host, log⟩

def ofFinished {α : Type} (finished : Finished Host α) : Ended :=
  let log := finished.trace.filterMap Session.Outcome.logEntry?
  match finished.result with
  | .ok _ => .success finished.output finished.world log
  | .error failure => .failed failure finished.world log

end Ended

/-- the text of one piece of the input, without its line end -/
def inputLine (piece : Text.Utf8.Bytes) : Except Text.Utf8.Fault String :=
  Text.Utf8.decode (Text.bare 0x0A 0x0D piece)

/-- the lines of standard input, or the fault of the first that is no text -/
def inputLines (input : Text.Utf8.Bytes) : Except Text.Utf8.Fault (List String) :=
  (Text.pieces 0x0A input).mapM inputLine

/-- the lines to append from standard input, which is read only if `stdin` holds -/
def observations (stdin : Bool) (input : Text.Utf8.Bytes) : Except Text.Utf8.Fault (List String) :=
  if stdin then inputLines input else .ok []

def inputHeading : String := "Cannot read observations from stdin"

/-- the collector that the settings name, with the remote host of the command line if it names one -/
def search (settings : Settings) (remoteHost : Option String) : Search Host := fun host =>
  let collector := { settings.collector with remoteHost := remoteHost.or settings.collector.remoteHost }
  match CommandCollector.resolve collector host with
  | .ok found => .ok (Host.services found)
  | .error fault => .error (.settings fault.message)

/-- the printed form of a sweep's report -/
def reportText (json : Bool) (report : Sweep.Report) : Except Failure String :=
  if json then
    match report.object? with
    | some object => .ok (object.render ++ "\n")
    | none => .error ⟨[], .report⟩
  else .ok (String.join (report.text.map (· ++ "\n")))

def sweep (settings : Settings) (dir : Option Path) (maxAgeMins : Option Nat) (json : Bool) (host : Host) : Ended :=
  let records := { settings.records with orphanMaxAgeMins := maxAgeMins.getD settings.records.orphanMaxAgeMins }
  let place : Except Settings.Fault Path := match dir with
    | some dir => .ok dir
    | none => records.directory host.home
  match place with
  | .error fault => .failed (.plain (.settings fault.message)) host []
  | .ok dir =>
    let (result, disk, log) := Sweep.sweep dir records.orphanMaxAge host.disk
    let after := { host with disk := disk }
    match result with
    | .error e => .failed (.under s!"Cannot sweep record directory {dir.display}" e) after log
    | .ok report =>
      match reportText json report with
      | .ok output => .success output after log
      | .error failure => .failed failure after log

def initConfig (path : Path) (host : Host) : Ended :=
  let (result, disk) := Settings.writeDefault path host.disk
  let after := { host with disk := disk }
  match result with
  | .ok () => .success s!"Wrote default configuration to {path.display}\n" after []
  | .error fault => .failed (.plain (.file fault)) after []

def execute (invocation : Invocation) (input : Text.Utf8.Bytes) (host : Host) : Ended :=
  match Settings.load invocation.config host.disk with
  | .error fault => .failed (.plain (.settings fault.message)) host []
  | .ok settings =>
    match invocation.command with
    | .run status ttl lines stdin remoteHost =>
      match observations stdin input with
      | .error fault => .failed ⟨[inputHeading], .input fault⟩ host []
      | .ok more => .ofFinished (report (search settings remoteHost) status ttl (lines ++ more) host)
    | .begin => .ofFinished (openOnly (search settings none) host)
    | .finish handle status ttl remoteHost =>
      .ofFinished (close (search settings remoteHost) handle status ttl host)
    | .sweep dir maxAgeMins json => sweep settings dir maxAgeMins json host
    | .initConfig path => initConfig (path.getD invocation.config) host

/-- name and version of the program -/
def versionText : String := "sn1ff-check 0.1.0\n"

/-- exit code of a command line that cannot be used -/
def unusableCode : Nat := 2

def interpret (words : List String) (input : Text.Utf8.Bytes) (host : Host) : Ended :=
  match Invocation.ofArguments words with
  | .ok invocation => execute invocation input host
  | .error .version => .success versionText host []
  | .error (.help scope) => .success (helpText scope) host []
  | .error .unusable => ⟨unusableCode, "", none, host, []⟩

end CheckReport.CommandLine
