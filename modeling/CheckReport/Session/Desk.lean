/-
Many sessions that share one world.

A desk holds a world and a numbered session for each check. A move is one operation of one session, or a call of the
collector that no session makes; `Desk.run` makes one move after another and keeps the trace.
-/
import CheckReport.Session.Operations

namespace CheckReport

open Session (Event Outcome Services)

structure Desk (σ : Type) where
  world : σ
  sessions : Nat → Session

namespace Desk

variable {σ : Type}

/-- a desk where no session has begun -/
def opening (world : σ) : Desk σ := ⟨world, fun _ => Session.new⟩

def setSession (desk : Desk σ) (i : Nat) (session : Session) : Desk σ :=
  { desk with sessions := fun j => if j = i then session else desk.sessions j }

/-- make an operation with session `i` -/
def perform {α : Type} (desk : Desk σ) (i : Nat) (operation : Session → σ → Outcome σ α) :
    Except Error α × Desk σ × List Event :=
  let outcome := operation (desk.sessions i) desk.world
  (outcome.result, { desk.setSession i outcome.session with world := outcome.world }, outcome.trace)

/-- one move at the desk -/
inductive Move where
  | new (i : Nat)
  | resume (i : Nat) (handle : Handle)
  | begin (i : Nat)
  | append (i : Nat) (text : String)
  | finish (i : Nat) (token : String) (minutes : Int)
  | submit (i : Nat) (status : Status) (ttl : Ttl)
  | run (i : Nat) (lines : List String) (token : String) (minutes : Int)
  | openRecord
  | submitRecord (handle : Handle) (status : Status) (ttl : Ttl)

/-- what a move gives back: the handle of a record that it opened and has not lost to a failure -/
abbrev MoveResult := Except Error (Option Handle)

/-- the collector called without a session -/
def direct {α : Type} (desk : Desk σ) (call : σ → Reply σ α) (event : Except Error α → Event) :
    Except Error α × Desk σ × List Event :=
  let reply := call desk.world
  (reply.result, { desk with world := reply.world }, reply.log.map Event.logged ++ [event reply.result])

def withHandle : Except Error Handle × Desk σ × List Event → MoveResult × Desk σ × List Event
  | (result, after) => (result.map some, after)

def withoutHandle : Except Error Unit × Desk σ × List Event → MoveResult × Desk σ × List Event
  | (result, after) => (result.map fun _ => none, after)

def step (services : Services σ) (desk : Desk σ) : Move → MoveResult × Desk σ × List Event
  | .new i => (.ok none, desk.setSession i Session.new, [])
  | .resume i handle => (.ok none, desk.setSession i (Session.resume handle), [])
  | .begin i => withHandle (desk.perform i (Session.begin services))
  | .append i text => withoutHandle (desk.perform i (Session.append services text))
  | .finish i token minutes => withoutHandle (desk.perform i (Session.finish services token minutes))
  | .submit i status ttl => withoutHandle (desk.perform i (Session.submit services status ttl))
  | .run i lines token minutes => withHandle (desk.perform i (Session.run services lines token minutes))
  | .openRecord => withHandle (desk.direct services.collector.openRecord .opening)
  | .submitRecord handle status ttl =>
    withoutHandle (desk.direct (services.collector.submitRecord handle status ttl) (.submission handle status ttl))

/-- the desk after some moves, and the trace of all of them -/
def run (services : Services σ) (desk : Desk σ) : List Move → Desk σ × List Event
  | [] => (desk, [])
  | move :: moves =>
    let (_, after, trace) := desk.step services move
    let (last, later) := run services after moves
    (last, trace ++ later)

end Desk

end CheckReport
