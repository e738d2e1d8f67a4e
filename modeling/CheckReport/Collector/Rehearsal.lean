/-
A collector to rehearse with.

It keeps everything in memory: the calls it got, handles to give out and failures to answer with. Without a handle in
its queue it numbers the records that it opens. Like every collector it takes each record once.
-/
import CheckReport.Collector.Service

namespace CheckReport

/-- one call -/
inductive Rehearsal.Call where
  | opening
  | submission (handle : Handle) (status : Status) (ttl : Ttl)
  deriving DecidableEq, Repr

/-- a failure to answer with -/
inductive Rehearsal.Failure where
  | unavailable (reason : String)
  | rejected (code : Int) (diagnostic : String)
  deriving DecidableEq, Repr

structure Rehearsal where
  /-- handles to give out, next first -/
  handles : List String
  /-- failures of open calls, next first -/
  openFailures : List Rehearsal.Failure
  /-- failures of submit calls, next first -/
  submitFailures : List Rehearsal.Failure
  /-- number of open calls that no failure met -/
  opened : Nat
  /-- records that were taken -/
  submitted : List Handle
  /-- all calls, first one first -/
  calls : List Rehearsal.Call
  deriving DecidableEq, Repr

namespace Rehearsal

def empty : Rehearsal := ⟨[], [], [], 0, [], []⟩

def Failure.error (phase : Phase) : Failure → Error
  | .unavailable reason => .unavailable phase reason
  | .rejected code diagnostic => .rejected phase (some code) diagnostic

def queueHandle (r : Rehearsal) (handle : String) : Rehearsal := { r with handles := r.handles ++ [handle] }

def queueOpenFailure (r : Rehearsal) (failure : Failure) : Rehearsal :=
  { r with openFailures := r.openFailures ++ [failure] }

def queueSubmitFailure (r : Rehearsal) (failure : Failure) : Rehearsal :=
  { r with submitFailures := r.submitFailures ++ [failure] }

/-- handle of the record with the given number -/
def numbered (n : Nat) : String := s!"/mock/sn1ff/record-{n}.snff"

def parsed (raw : String) : Except Error Handle :=
  match Handle.parse raw with
  | .ok handle => .ok handle
  | .error fault => .error (.invalidArgument fault.message)

def openRecord (before : Rehearsal) : Except Error Handle × Rehearsal :=
  let r := { before with calls := before.calls ++ [Call.opening] }
  match r.openFailures with
  | failure :: later => (.error (failure.error .begin), { r with openFailures := later })
  | [] =>
    let r := { r with opened := r.opened + 1 }
    match r.handles with
    | raw :: later => (parsed raw, { r with handles := later })
    | [] => (parsed (numbered r.opened), r)

def submitRecord (before : Rehearsal) (handle : Handle) (status : Status) (ttl : Ttl) : Except Error Unit × Rehearsal :=
  let r := { before with calls := before.calls ++ [Call.submission handle status ttl] }
  match r.submitFailures with
  | failure :: later => (.error (failure.error .finish), { r with submitFailures := later })
  | [] =>
    if handle ∈ r.submitted then
      (.error (.rejected .finish (some 1) s!"record already submitted: {handle.text}"), r)
    else (.ok (), { r with submitted := r.submitted ++ [handle] })

/-- the collector; it logs nothing -/
def service : Collector Rehearsal where
  openRecord r := let (result, after) := r.openRecord; ⟨result, after, []⟩
  submitRecord handle status ttl r := let (result, after) := r.submitRecord handle status ttl; ⟨result, after, []⟩

/-- the submit calls, first one first -/
def submissions (r : Rehearsal) : List Call := r.calls.filter (· ≠ .opening)

end Rehearsal

end CheckReport
