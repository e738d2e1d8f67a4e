/-
Settings.

Settings say how the collector is run, where its records lie and when one is an orphan, and which log entries are
shown. Every setting has a default, and every section has one for the case that all of it is missing.
-/
import CheckReport.Disk.Path
import CheckReport.Settings.Fault
import CheckReport.Time.Span

namespace CheckReport

/-- how the collector is run; submissions stay on this machine unless a remote host is set -/
structure Settings.Collector where
  program : String
  args : List String
  timeoutSecs : Nat
  remoteHost : Option String
  deriving DecidableEq, Repr

/-- where the records lie and from which age on one counts as an orphan -/
structure Settings.Records where
  dir : Option Path
  orphanMaxAgeMins : Nat
  deriving DecidableEq, Repr

structure Settings.Logging where
  level : String
  deriving DecidableEq, Repr

structure Settings where
  collector : Settings.Collector
  records : Settings.Records
  log : Settings.Logging
  deriving DecidableEq, Repr

namespace Settings

def defaultProgram : String := "sn1ff_client"

def defaultTimeoutSecs : Nat := 60

def defaultOrphanMaxAgeMins : Nat := 24 * 60

def defaultLevel : String := "info"

def Collector.defaults : Collector where
  program := defaultProgram
  args := []
  timeoutSecs := defaultTimeoutSecs
  remoteHost := none

def Records.defaults : Records where
  dir := none
  orphanMaxAgeMins := defaultOrphanMaxAgeMins

def Logging.defaults : Logging where
  level := defaultLevel

def defaults : Settings where
  collector := .defaults
  records := .defaults
  log := .defaults

/-- a collector that may take no time can only fail -/
def Collector.check (collector : Collector) : Except Fault Unit :=
  if collector.timeoutSecs = 0 then .error .zeroTimeout else .ok ()

/-- the directory of the records: the one that is set, else `sn1ff` in the home directory -/
def Records.directory (records : Records) (home : Option Path) : Except Fault Path :=
  match records.dir, home with
  | some dir, _ => .ok dir
  | none, some home => .ok (home.join (.ofString "sn1ff"))
  | none, none => .error .noHome

/-- age from which on a record counts as an orphan -/
def Records.orphanMaxAge (records : Records) : Time.Span := .ofMinutes records.orphanMaxAgeMins

end Settings

end CheckReport
