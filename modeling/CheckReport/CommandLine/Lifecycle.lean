/-
The commands of a record's life.

`report` opens a record, adds lines to it and hands it in; `openOnly` only opens one, `close` hands in one that was
opened before. What they print is the handle, and only after everything has gone well. The arguments of `report` are
checked before the collector is looked for; `close` checks the handle before, the others after.
-/
import CheckReport.CommandLine.Failure
import CheckReport.Session.Operations

namespace CheckReport.CommandLine

open Session (Event Outcome Services)

/-- what a command leaves behind -/
structure Finished (σ α : Type) where
  result : Except Failure α
  world : σ
  output : String
  trace : List Event

namespace Finished

variable {σ α : Type}

/-- a command that failed before it did anything -/
def refused (e : Error) (world : σ) : Finished σ α := ⟨.error (.plain e), world, "", []⟩

/-- a command that failed with a step -/
def failed {β : Type} (heading : String) (e : Error) (earlier : List Event) (step : Outcome σ β) : Finished σ α :=
  ⟨.error (.under heading e), step.world, "", earlier ++ step.trace⟩

end Finished

/-- a collector to be looked for, with a place for lines -/
abbrev Search (σ : Type) := σ → Except Error (Services σ)

variable {σ : Type}

def beginHeading : String := "Cannot begin sn1ff check results file"

def appendHeading (handle : Handle) : String := s!"Cannot append to sn1ff check results file {handle.text}"

def finishHeading (handle : Handle) : String := s!"Cannot end sn1ff check results file {handle.text}"

/-- the command line that hands in an open record -/
def resubmission (handle : Handle) (status : Status) (ttl : Ttl) : String :=
  s!"sn1ff-check end --handle {handle.text} --status {status.token} --ttl {ttl.text}"

def submitHeading (handle : Handle) (status : Status) (ttl : Ttl) : String :=
  s!"Cannot end sn1ff check results file; resubmit with: {resubmission handle status ttl}"

def printed (handle : Handle) : String := handle.text ++ "\n"

/-- what is logged once the record is open -/
def openedNote (handle : Handle) : List Event :=
  [.logged (Log.info s!"sn1ff check results file created -> {handle.text}")]

/-- what is logged if the record could not be handed in -/
def keptNote (handle : Handle) : List Event := [.logged (Log.error s!"Record {handle.text} was not submitted")]

/-- what is logged once the record is handed in -/
def sentNote : List Event :=
  [.logged (Log.info "Completed sn1ff check results file and sent it to the sn1ff server")]

/-- open a record, add the lines and hand it in; the value is the handle -/
def report (search : Search σ) (token : String) (minutes : Int) (lines : List String) (world : σ) :
    Finished σ Handle :=
  match Status.parse token with
  | .error fault => .refused (.invalidArgument fault.message) world
  | .ok status =>
    match Ttl.ofMinutes minutes with
    | .error fault => .refused (.invalidArgument fault.message) world
    | .ok ttl =>
      match search world with
      | .error e => .refused e world
      | .ok services =>
        let opening := Session.begin services Session.new world
        match opening.result with
        | .error e => .failed beginHeading e [] opening
        | .ok handle =>
          let opened := opening.trace ++ openedNote handle
          let writing := Session.appendAll services opening.session opening.world lines
          match writing.result with
          | .error e => .failed (appendHeading handle) e opened writing
          | .ok () =>
            let sending := Session.submit services status ttl writing.session writing.world
            let sent := opened ++ writing.trace ++ sending.trace
            match sending.result with
            | .error e =>
              ⟨.error (.under (submitHeading handle status ttl) e), sending.world, "", sent ++ keptNote handle⟩
            | .ok () => ⟨.ok handle, sending.world, printed handle, sent ++ sentNote⟩

/-- open a record -/
def openOnly (search : Search σ) (world : σ) : Finished σ Unit :=
  match search world with
  | .error e => .refused e world
  | .ok services =>
    let opening := Session.begin services Session.new world
    match opening.result with
    | .error e => .failed beginHeading e [] opening
    | .ok handle => ⟨.ok (), opening.world, printed handle, opening.trace⟩

/-- hand in a record that was opened before -/
def close (search : Search σ) (raw token : String) (minutes : Int) (world : σ) : Finished σ Unit :=
  match Handle.parse raw with
  | .error fault => .refused (.invalidArgument fault.message) world
  | .ok handle =>
    match search world with
    | .error e => .refused e world
    | .ok services =>
      let sending := Session.finish services token minutes (Session.resume handle) world
      match sending.result with
      | .error e => .failed (finishHeading handle) e [] sending
      | .ok () =>
        ⟨.ok (), sending.world, "", sending.trace ++ [.logged (Log.info s!"Submitted {handle.text}")]⟩

end CheckReport.CommandLine
