/-
What a trace tells.

A trace is a list of events. This module reads it in two ways. For a session, an event may be allowed or not in the
stage of the record (`State.Allows`) and leaves a stage and a number of lines behind (`Session.replay`). For the world,
an event says what a call was answered (`Services.Answers`) and leaves another world behind (`Services.replay`).
`Leads` puts both together: from a session in a world, a trace leads to a session in a world.

- `Leads.refl`, `Leads.trans`: traces are put one behind the other.
- `Leads.single`, `Leads.between`: one event, alone or between log entries.
- `Leads.idle`, `Leads.logs`: a trace of log entries leads nowhere.
-/
import Mathlib.Tactic
import CheckReport.Session.Operations

namespace CheckReport.Session

/-! ## Kinds of events -/

namespace Event

/-- an open call of the collector -/
def isOpening : Event → Bool
  | .opening _ => true
  | _ => false

/-- a submit call of the collector -/
def isSubmission : Event → Bool
  | .submission _ _ _ _ => true
  | _ => false

/-- something that is only logged; every other event is a call of the collector or an access to a file -/
def isLogged : Event → Bool
  | .logged _ => true
  | _ => false

/-- an open call that gave a handle -/
def hasOpened : Event → Bool
  | .opening (.ok _) => true
  | _ => false

/-- a line that was added -/
def hasAppended : Event → Bool
  | .appending _ _ (.ok _) => true
  | _ => false

/-- a submit call that was accepted -/
def hasSubmitted : Event → Bool
  | .submission _ _ _ (.ok _) => true
  | _ => false

end Event

theorem logged_of_map (entries : List Log.Entry) : ∀ event ∈ entries.map Event.logged, event.isLogged = true := by
  intro event he
  obtain ⟨entry, -, rfl⟩ := List.mem_map.1 he
  rfl

/-! ## What a trace does to a session -/

/-- the stage behind an event: an open call that gave a handle opens, a submit call that was accepted closes -/
def State.after (state : State) : Event → State
  | .opening (.ok handle) => .opened handle
  | .submission handle _ _ (.ok ()) => .closed handle
  | _ => state

/-- the stages in which an event may happen -/
def State.Allows (state : State) : Event → Prop
  | .opening _ => state = .fresh
  | .appending handle _ _ => state = .opened handle
  | .submission handle _ _ _ => state = .opened handle
  | .logged _ => True

/-- every event happens in a stage that allows it -/
def State.AllowsAll : State → List Event → Prop
  | _, [] => True
  | state, event :: later => state.Allows event ∧ (state.after event).AllowsAll later

/-- the session behind an event -/
def after (session : Session) (event : Event) : Session :=
  ⟨session.state.after event, session.appended + if event.hasAppended then 1 else 0⟩

def replay (session : Session) (trace : List Event) : Session := trace.foldl after session

theorem replay_append (session : Session) (first later : List Event) :
    session.replay (first ++ later) = (session.replay first).replay later := by
  simp only [replay, List.foldl_append]

theorem replay_state (session : Session) (trace : List Event) :
    (session.replay trace).state = trace.foldl State.after session.state := by
  induction trace generalizing session with
  | nil => rfl
  | cons event later ih => exact ih (session.after event)

theorem replay_appended (session : Session) (trace : List Event) :
    (session.replay trace).appended = session.appended + trace.countP Event.hasAppended := by
  induction trace generalizing session with
  | nil => rfl
  | cons event later ih =>
    have h : (session.replay (event :: later)).appended =
      (session.after event).appended + later.countP Event.hasAppended := ih (session.after event)
    rw [h, List.countP_cons]
    simp only [after]
    omega

theorem allowsAll_append (state : State) (first later : List Event) :
    state.AllowsAll (first ++ later) ↔ state.AllowsAll first ∧ (first.foldl State.after state).AllowsAll later := by
  induction first generalizing state with
  | nil => simp [State.AllowsAll]
  | cons event first ih => simp only [List.cons_append, State.AllowsAll, List.foldl_cons, ih, and_assoc]

/-! ## What a trace does to the world -/

namespace Services

variable {σ : Type} (services : Services σ)

/-- the world behind an event -/
def after (world : σ) : Event → σ
  | .opening _ => (services.collector.openRecord world).world
  | .appending handle text _ => (services.appendLine handle text world).2
  | .submission handle status ttl _ => (services.collector.submitRecord handle status ttl world).world
  | .logged _ => world

/-- the call that an event tells of has the result that the event tells -/
def Answers (world : σ) : Event → Prop
  | .opening result => (services.collector.openRecord world).result = result
  | .appending handle text result => (services.appendLine handle text world).1 = result
  | .submission handle status ttl result => (services.collector.submitRecord handle status ttl world).result = result
  | .logged _ => True

/-- every event tells the result of its call in the world where it happens -/
def AnswersAll : σ → List Event → Prop
  | _, [] => True
  | world, event :: later => services.Answers world event ∧ AnswersAll (services.after world event) later

def replay (world : σ) (trace : List Event) : σ := trace.foldl services.after world

theorem replay_append (world : σ) (first later : List Event) :
    services.replay world (first ++ later) = services.replay (services.replay world first) later := by
  simp only [replay, List.foldl_append]

theorem answersAll_append (world : σ) (first later : List Event) :
    services.AnswersAll world (first ++ later) ↔
      services.AnswersAll world first ∧ services.AnswersAll (services.replay world first) later := by
  induction first generalizing world with
  | nil => simp [AnswersAll, replay]
  | cons event first ih => simp only [List.cons_append, AnswersAll, ih, and_assoc, replay, List.foldl_cons]

end Services

/-! ## From one session to a later one -/

/-- a trace leads from a session in a world to a later session in a later world: every event is allowed and tells the
truth, and both ends are what the events make of them -/
structure Leads {σ : Type} (services : Services σ) (session : Session) (world : σ) (trace : List Event)
    (later : Session) (behind : σ) : Prop where
  allowed : session.state.AllowsAll trace
  answered : services.AnswersAll world trace
  session_eq : session.replay trace = later
  world_eq : services.replay world trace = behind

namespace Leads

variable {σ : Type} {services : Services σ} {session later last : Session} {world behind final : σ}

theorem refl : Leads services session world [] session world := ⟨trivial, trivial, rfl, rfl⟩

theorem trans {first second : List Event} (h : Leads services session world first later behind)
    (h' : Leads services later behind second last final) :
    Leads services session world (first ++ second) last final := by
  obtain ⟨allowed, answered, rfl, rfl⟩ := h
  refine ⟨?_, ?_, ?_, ?_⟩
  · rw [allowsAll_append]
    refine ⟨allowed, ?_⟩
    rw [← replay_state]
    exact h'.allowed
  · rw [services.answersAll_append]
    exact ⟨answered, h'.answered⟩
  · rw [replay_append]
    exact h'.session_eq
  · rw [services.replay_append]
    exact h'.world_eq

/-- one event that is allowed and tells the truth -/
theorem single (event : Event) (allowed : session.state.Allows event) (answered : services.Answers world event) :
    Leads services session world [event] (session.after event) (services.after world event) :=
  ⟨⟨allowed, trivial⟩, ⟨answered, trivial⟩, rfl, rfl⟩

theorem idle {trace : List Event} (h : ∀ event ∈ trace, event.isLogged = true) :
    Leads services session world trace session world := by
  induction trace with
  | nil => exact refl
  | cons event trace ih =>
    have tail := ih fun e he => h e (List.mem_cons_of_mem _ he)
    cases event with
    | logged entry =>
      have head : Leads services session world [.logged entry] session world :=
        ⟨⟨trivial, trivial⟩, ⟨trivial, trivial⟩, rfl, rfl⟩
      exact trans head tail
    | _ => exact absurd (h _ List.mem_cons_self) (by simp [Event.isLogged])

theorem logs (entries : List Log.Entry) :
    Leads services session world (entries.map Event.logged) session world := idle (logged_of_map entries)

/-- one event behind log entries and before one more -/
theorem between (session : Session) {first : List Event} (h : ∀ event ∈ first, event.isLogged = true) (event : Event)
    (allowed : session.state.Allows event) (answered : services.Answers world event) (entry : Log.Entry) :
    Leads services session world (first ++ [event] ++ [.logged entry]) (session.after event)
      (services.after world event) :=
  ((idle h).trans (single event allowed answered)).trans (logs [entry])

end Leads

end CheckReport.Session
