/-
Sessions.

A session binds one record to its life: it is new, then open with the handle that the collector gave, then closed. What
an operation does outside the session is kept as a trace of events, in the order in which they happened.
-/
import CheckReport.Collector.Service
import CheckReport.Disk.Fault

namespace CheckReport

/-- stage of a record's life -/
inductive Session.State where
  | fresh
  | opened (handle : Handle)
  | closed (handle : Handle)
  deriving DecidableEq, Repr

/-- one check's record, and the number of lines appended through the session -/
structure Session where
  state : Session.State
  appended : Nat
  deriving DecidableEq, Repr

namespace Session

def State.name : State → String
  | .fresh => "NEW"
  | .opened _ => "OPEN"
  | .closed _ => "CLOSED"

/-- handle of the record that was opened or submitted -/
def State.handle? : State → Option Handle
  | .fresh => none
  | .opened handle => some handle
  | .closed handle => some handle

def new : Session := ⟨.fresh, 0⟩

/-- take up a record that is open already -/
def resume (handle : Handle) : Session := ⟨.opened handle, 0⟩

/-- what a session needs of the world: a collector, and a place for the lines of a record -/
structure Services (σ : Type) where
  collector : Collector σ
  appendLine : Handle → String → σ → Except Disk.Fault Unit × σ

/-- what happened outside a session -/
inductive Event where
  | opening (result : Except Error Handle)
  | appending (handle : Handle) (text : String) (result : Except Disk.Fault Unit)
  | submission (handle : Handle) (status : Status) (ttl : Ttl) (result : Except Error Unit)
  | logged (entry : Log.Entry)

/-- what an operation gives back -/
structure Outcome (σ α : Type) where
  result : Except Error α
  session : Session
  world : σ
  trace : List Event

namespace Outcome

variable {σ α β : Type}

def logEntry? : Event → Option Log.Entry
  | .logged entry => some entry
  | _ => none

/-- what was logged -/
def log (outcome : Outcome σ α) : List Log.Entry := outcome.trace.filterMap logEntry?

/-- go on after a success; a failure ends the whole -/
def andThen (outcome : Outcome σ α) (next : α → Session → σ → Outcome σ β) : Outcome σ β :=
  match outcome.result with
  | .error e => ⟨.error e, outcome.session, outcome.world, outcome.trace⟩
  | .ok value =>
    let later := next value outcome.session outcome.world
    ⟨later.result, later.session, later.world, outcome.trace ++ later.trace⟩

end Outcome

end Session

end CheckReport
