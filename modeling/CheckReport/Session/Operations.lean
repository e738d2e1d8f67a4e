/-
Operations of a session.

`begin` opens a record, `append` adds a line to it, `submit` and `finish` hand it in; `run` does all of it. An operation
that does not fit the state of the session touches nothing. A failure of the collector does not move the session, so
that the same call may be made again; a closed session stays closed.
-/
import CheckReport.Session.Basic

namespace CheckReport.Session

variable {σ : Type} (services : Services σ)

/-- an operation that the state of the session does not allow -/
def misuse {α : Type} (operation : String) (session : Session) (world : σ) : Outcome σ α :=
  ⟨.error (.invalidState operation session.state.name), session, world,
    [.logged (Log.error s!"Check session misuse: {operation} while {session.state.name}")]⟩

/-- an argument that is refused -/
def refuse {α : Type} (fault : ArgumentFault) (session : Session) (world : σ) : Outcome σ α :=
  ⟨.error (.invalidArgument fault.message), session, world, []⟩

/-- have the collector open a record -/
def begin (session : Session) (world : σ) : Outcome σ Handle :=
  match session.state with
  | .fresh =>
    let reply := services.collector.openRecord world
    let called := reply.log.map Event.logged ++ [.opening reply.result]
    match reply.result with
    | .ok handle =>
      ⟨.ok handle, { session with state := .opened handle }, reply.world,
        called ++ [.logged (Log.info s!"Opened check record {handle.text}")]⟩
    | .error e =>
      ⟨.error e, session, reply.world, called ++ [.logged (Log.warn s!"Could not open check record: {e.message}")]⟩
  | _ => misuse "begin" session world

/-- add one line to the record; the collector takes no part in it -/
def append (text : String) (session : Session) (world : σ) : Outcome σ Unit :=
  match session.state with
  | .opened handle =>
    match services.appendLine handle text world with
    | (.ok (), after) =>
      ⟨.ok (), { session with appended := session.appended + 1 }, after, [.appending handle text (.ok ())]⟩
    | (.error fault, after) => ⟨.error (.file fault), session, after, [.appending handle text (.error fault)]⟩
  | _ => misuse "append" session world

/-- the warning about a status that no collector is known to understand -/
def statusWarning (status : Status) : List Event :=
  if status.isKnown then []
  else
    let words := ", ".intercalate (Status.known.map Text.quoted)
    [.logged (Log.warn s!"Status '{status.token}' is not one of [{words}]; submitting anyway")]

/-- hand the record in -/
def submit (status : Status) (ttl : Ttl) (session : Session) (world : σ) : Outcome σ Unit :=
  match session.state with
  | .opened handle =>
    let reply := services.collector.submitRecord handle status ttl world
    let called := statusWarning status ++ reply.log.map Event.logged ++ [.submission handle status ttl reply.result]
    match reply.result with
    | .ok () =>
      ⟨.ok (), { session with state := .closed handle }, reply.world,
        called ++
          [.logged (Log.info s!"Submitted check record {handle.text} (status {status.token}, ttl {ttl.text}m)")]⟩
    | .error e =>
      ⟨.error e, session, reply.world,
        called ++ [.logged (Log.error s!"Submit failed, record {handle.text} kept for resubmission: {e.message}")]⟩
  | _ => misuse "end" session world

/-- hand the record in with a status and a number of minutes that are checked first -/
def finish (token : String) (minutes : Int) (session : Session) (world : σ) : Outcome σ Unit :=
  match session.state with
  | .opened _ =>
    match Status.parse token with
    | .error fault => refuse fault session world
    | .ok status =>
      match Ttl.ofMinutes minutes with
      | .error fault => refuse fault session world
      | .ok ttl => submit services status ttl session world
  | _ => misuse "end" session world

/-- add lines up to the first that fails -/
def appendAll (session : Session) (world : σ) : List String → Outcome σ Unit
  | [] => ⟨.ok (), session, world, []⟩
  | text :: texts =>
    (append services text session world).andThen fun _ session world => appendAll session world texts

/-- begin, add every line and hand the record in; the arguments are checked before anything is done -/
def run (lines : List String) (token : String) (minutes : Int) (session : Session) (world : σ) : Outcome σ Handle :=
  match Status.parse token with
  | .error fault => refuse fault session world
  | .ok status =>
    match Ttl.ofMinutes minutes with
    | .error fault => refuse fault session world
    | .ok ttl =>
      (begin services session world).andThen fun handle session world =>
        (appendAll services session world lines).andThen fun _ session world =>
          (submit services status ttl session world).andThen fun _ session world =>
            ⟨.ok handle, session, world, []⟩

end CheckReport.Session
