/-
The life of a record in one session.

Whatever calls are made of a session, and whatever the collector and the disk answer to each of them, the session
handles one record and hands it in at most once. `session_lives_once` states the whole law (`Lifecycle`), for a session
that is new and for one that takes up an open record.

The argument is about traces that are allowed event by event (`State.AllowsAll`):
- `handle?_kept`: once there is a handle it stays;
- `countP_hasOpened`, `countP_hasSubmitted`: a success is spent, and there is one of each kind at most;
- `logged_of_closed`: behind an accepted submission only log entries are allowed;
- `visited_fresh`: the stages are `NEW* OPEN(h)* CLOSED(h)*`.
-/
import CheckReport.Proofs.Session.Course

namespace CheckReport.Session

/-! ## Allowed traces -/

namespace State

/-- all stages of a trace, the first and the last one included -/
def visited (state : State) (trace : List Event) : List State := trace.scanl State.after state

/-- what an allowed event does: nothing to the stage, or one of the two steps of a record's life -/
theorem after_cases {state : State} {event : Event} (h : state.Allows event) :
    (state.after event = state ∧ event.hasOpened = false ∧ event.hasSubmitted = false) ∨
    (∃ handle, state = .fresh ∧ event = .opening (.ok handle)) ∨
    (∃ handle status ttl, state = .opened handle ∧ event = .submission handle status ttl (.ok ())) := by
  cases event with
  | opening result =>
    cases result with
    | ok handle => exact Or.inr (Or.inl ⟨handle, h, rfl⟩)
    | error e => exact Or.inl ⟨rfl, rfl, rfl⟩
  | appending handle text result => exact Or.inl ⟨rfl, rfl, rfl⟩
  | submission handle status ttl result =>
    cases result with
    | ok => exact Or.inr (Or.inr ⟨handle, status, ttl, h, rfl⟩)
    | error e => exact Or.inl ⟨rfl, rfl, rfl⟩
  | logged entry => exact Or.inl ⟨rfl, rfl, rfl⟩

theorem handle?_kept {state : State} {trace : List Event} {h : Handle} (allowed : state.AllowsAll trace)
    (hs : state.handle? = some h) : (trace.foldl State.after state).handle? = some h := by
  induction trace generalizing state with
  | nil => exact hs
  | cons event trace ih =>
    obtain ⟨head, tail⟩ := allowed
    apply ih tail
    rcases after_cases head with ⟨same, -, -⟩ | ⟨handle, rfl, -⟩ | ⟨handle, status, ttl, rfl, rfl⟩
    · rw [same]
      exact hs
    · cases hs
    · exact hs

theorem allows_at {state : State} {before later : List Event} {event : Event}
    (allowed : state.AllowsAll (before ++ event :: later)) : (before.foldl State.after state).Allows event := by
  rw [allowsAll_append] at allowed
  exact allowed.2.1

/-- a handle that is there at some point is there at the end -/
theorem handle?_at {state : State} {before later : List Event} {event : Event} {h : Handle}
    (allowed : state.AllowsAll (before ++ event :: later))
    (hs : ((before.foldl State.after state).after event).handle? = some h) :
    ((before ++ event :: later).foldl State.after state).handle? = some h := by
  rw [allowsAll_append] at allowed
  rw [List.foldl_append, List.foldl_cons]
  exact handle?_kept allowed.2.2 hs

/-- the open calls that may still succeed -/
def openings : State → ℕ
  | .fresh => 1
  | _ => 0

theorem openings_le_one (state : State) : state.openings ≤ 1 := by
  cases state <;> simp [openings]

/-- the submit calls that may still succeed -/
def submissions : State → ℕ
  | .closed _ => 0
  | _ => 1

theorem submissions_le_one (state : State) : state.submissions ≤ 1 := by
  cases state <;> simp [submissions]

theorem countP_hasOpened {state : State} {trace : List Event} (allowed : state.AllowsAll trace) :
    trace.countP Event.hasOpened + (trace.foldl State.after state).openings = state.openings := by
  induction trace generalizing state with
  | nil => exact Nat.zero_add _
  | cons event trace ih =>
    obtain ⟨head, tail⟩ := allowed
    have later := ih tail
    rw [List.countP_cons, List.foldl_cons]
    rcases after_cases head with ⟨same, hev, -⟩ | ⟨handle, rfl, rfl⟩ | ⟨handle, status, ttl, rfl, rfl⟩
    · rw [same] at later ⊢
      rw [hev]
      exact later
    · simp only [State.after, openings, Event.hasOpened, if_true] at later ⊢
      omega
    · exact later

theorem countP_hasSubmitted {state : State} {trace : List Event} (allowed : state.AllowsAll trace) :
    trace.countP Event.hasSubmitted + (trace.foldl State.after state).submissions = state.submissions := by
  induction trace generalizing state with
  | nil => exact Nat.zero_add _
  | cons event trace ih =>
    obtain ⟨head, tail⟩ := allowed
    have later := ih tail
    rw [List.countP_cons, List.foldl_cons]
    rcases after_cases head with ⟨same, -, hev⟩ | ⟨handle, rfl, rfl⟩ | ⟨handle, status, ttl, rfl, rfl⟩
    · rw [same] at later ⊢
      rw [hev]
      exact later
    · exact later
    · simp only [State.after, submissions, Event.hasSubmitted, if_true] at later ⊢
      omega

theorem logged_of_closed {h : Handle} {trace : List Event} (allowed : (State.closed h).AllowsAll trace) :
    ∀ event ∈ trace, event.isLogged = true := by
  induction trace with
  | nil => simp
  | cons event trace ih =>
    obtain ⟨head, tail⟩ := allowed
    cases event with
    | logged entry => exact List.forall_mem_cons.2 ⟨rfl, ih tail⟩
    | _ => cases head

/-- only a fresh record may be opened -/
theorem fresh_of_mem_opening {state : State} {trace : List Event} {result : Except Error Handle}
    (allowed : state.AllowsAll trace) (h : Event.opening result ∈ trace) : state = .fresh := by
  induction trace generalizing state with
  | nil => cases h
  | cons event trace ih =>
    obtain ⟨head, tail⟩ := allowed
    rcases List.mem_cons.1 h with rfl | h
    · exact head
    · have later := ih tail h
      rcases after_cases head with ⟨same, -, -⟩ | ⟨handle, rfl, -⟩ | ⟨handle, status, ttl, rfl, rfl⟩
      · rw [← same]
        exact later
      · rfl
      · cases later

/-- an open record was open from the start, or an open call gave its handle -/
theorem opening_of_opened {state : State} {trace : List Event} {h : Handle} (allowed : state.AllowsAll trace)
    (last : trace.foldl State.after state = .opened h) : state = .opened h ∨ .opening (.ok h) ∈ trace := by
  induction trace generalizing state with
  | nil => exact Or.inl last
  | cons event trace ih =>
    obtain ⟨head, tail⟩ := allowed
    rcases ih tail last with h' | h'
    · rcases after_cases head with ⟨same, -, -⟩ | ⟨handle, rfl, rfl⟩ | ⟨handle, status, ttl, rfl, rfl⟩
      · exact Or.inl (same.symm.trans h')
      · cases h'
        exact Or.inr List.mem_cons_self
      · cases h'
    · exact Or.inr (List.mem_cons_of_mem _ h')

/-! ## The stages of an allowed trace -/

theorem visited_closed {h : Handle} {trace : List Event} (allowed : (State.closed h).AllowsAll trace) :
    ∃ k, (State.closed h).visited trace = List.replicate k (.closed h) := by
  induction trace with
  | nil => exact ⟨1, rfl⟩
  | cons event trace ih =>
    obtain ⟨head, tail⟩ := allowed
    rcases after_cases head with ⟨same, -, -⟩ | ⟨handle, hs, -⟩ | ⟨handle, status, ttl, hs, -⟩
    · rw [same] at tail
      obtain ⟨k, hk⟩ := ih tail
      refine ⟨k + 1, ?_⟩
      rw [visited, List.scanl_cons, same, List.replicate_succ, ← hk, visited]
    · cases hs
    · cases hs

theorem visited_opened {h : Handle} {trace : List Event} (allowed : (State.opened h).AllowsAll trace) :
    ∃ j k, (State.opened h).visited trace = List.replicate j (.opened h) ++ List.replicate k (.closed h) := by
  induction trace with
  | nil => exact ⟨1, 0, rfl⟩
  | cons event trace ih =>
    obtain ⟨head, tail⟩ := allowed
    rcases after_cases head with ⟨same, -, -⟩ | ⟨handle, hs, -⟩ | ⟨handle, status, ttl, hs, rfl⟩
    · rw [same] at tail
      obtain ⟨j, k, hk⟩ := ih tail
      refine ⟨j + 1, k, ?_⟩
      rw [visited, List.scanl_cons, same, List.replicate_succ, List.cons_append, ← hk, visited]
    · cases hs
    · cases hs
      obtain ⟨k, hk⟩ := visited_closed tail
      refine ⟨1, k, ?_⟩
      rw [visited, List.scanl_cons, ← hk]
      rfl

theorem visited_fresh {h : Handle} {trace : List Event} (allowed : State.fresh.AllowsAll trace)
    (last : ∀ handle, (trace.foldl State.after .fresh).handle? = some handle → handle = h) :
    ∃ i j k, State.fresh.visited trace =
      List.replicate i .fresh ++ List.replicate j (.opened h) ++ List.replicate k (.closed h) := by
  induction trace with
  | nil => exact ⟨1, 0, 0, rfl⟩
  | cons event trace ih =>
    obtain ⟨head, tail⟩ := allowed
    rw [List.foldl_cons] at last
    rcases after_cases head with ⟨same, -, -⟩ | ⟨handle, -, rfl⟩ | ⟨handle, status, ttl, hs, -⟩
    · rw [same] at tail last
      obtain ⟨i, j, k, hk⟩ := ih tail last
      refine ⟨i + 1, j, k, ?_⟩
      rw [visited, List.scanl_cons, same, List.replicate_succ, List.cons_append, List.cons_append, ← hk, visited]
    · have hh : handle = h := last handle (handle?_kept tail rfl)
      subst hh
      obtain ⟨j, k, hk⟩ := visited_opened tail
      refine ⟨1, j, k, ?_⟩
      rw [visited, List.scanl_cons, List.append_assoc, ← hk]
      rfl
    · cases hs

end State

/-! ## The law -/

variable {σ : Type} (services : Services σ)

/-- the law of a record's life: `calls` are made of a session that begins as `start`, and `h` is the one handle -/
structure Lifecycle (h : Handle) (start : Session) (world : σ) (calls : List Call) : Prop where
  /-- the stages visited are `NEW* OPEN(h)* CLOSED(h)*` -/
  stages : ∃ i j k, start.state.visited (course services calls start world).trace =
    List.replicate i .fresh ++ List.replicate j (.opened h) ++ List.replicate k (.closed h)
  /-- and they are the session's: after the first of the calls, however many, it is in the stage visited last -/
  reached : ∀ first later, calls = first ++ later →
    (course services first start world).trace <+: (course services calls start world).trace ∧
      (start.state.visited (course services first start world).trace).getLast? =
        some (course services first start world).session.state
  /-- a stage is left only by an open call that gave `h` or by a submit call for `h` that was accepted -/
  moves : ∀ before event later, (course services calls start world).trace = before ++ event :: later →
    let stage := (start.replay before).state
    stage.after event = stage ∨ stage = .fresh ∧ event = .opening (.ok h) ∨
      stage = .opened h ∧ ∃ status ttl, event = .submission h status ttl (.ok ())
  opened_once : (course services calls start world).trace.countP Event.hasOpened ≤ 1
  submitted_once : (course services calls start world).trace.countP Event.hasSubmitted ≤ 1
  /-- a submit call carries `h`, and `h` was given before, by an open call or from the start -/
  submissions : ∀ before handle status ttl result later,
    (course services calls start world).trace = before ++ .submission handle status ttl result :: later →
      handle = h ∧ (start.state = .opened h ∨ .opening (.ok h) ∈ before)
  /-- nothing but log entries comes behind an accepted submission -/
  at_rest : ∀ before status ttl later,
    (course services calls start world).trace = before ++ .submission h status ttl (.ok ()) :: later →
      ∀ event ∈ later, event.isLogged = true
  /-- the trace tells the result of each call, and what happens to the world is told by it -/
  answered : services.AnswersAll world (course services calls start world).trace
  world_told : (course services calls start world).world =
    services.replay world (course services calls start world).trace
  /-- a session that is closed stays as it is, and so does the world, whatever is called -/
  ended : (course services calls start world).session.state = .closed h → ∀ more,
    let reached := course services calls start world
    let last := course services more reached.session reached.world
    last.session = reached.session ∧ last.world = reached.world ∧ ∀ event ∈ last.trace, event.isLogged = true

theorem course_of_closed {session : Session} {world : σ} {h : Handle} (hs : session.state = .closed h)
    (calls : List Call) :
    (course services calls session world).session = session ∧ (course services calls session world).world = world ∧
      ∀ event ∈ (course services calls session world).trace, event.isLogged = true := by
  have leads := course_leads services calls session world
  have logged : ∀ event ∈ (course services calls session world).trace, event.isLogged = true := by
    have allowed := leads.allowed
    rw [hs] at allowed
    exact State.logged_of_closed allowed
  have idle : Leads services session world _ session world := Leads.idle logged
  exact ⟨leads.session_eq.symm.trans idle.session_eq, leads.world_eq.symm.trans idle.world_eq, logged⟩

/-- the stages up to the last one decide the whole law -/
theorem lifecycle_of_stages {h : Handle} {start : Session} {world : σ} {calls : List Call}
    (stages : ∃ i j k, start.state.visited (course services calls start world).trace =
      List.replicate i .fresh ++ List.replicate j (.opened h) ++ List.replicate k (.closed h))
    (last : ∀ handle, (course services calls start world).session.state.handle? = some handle → handle = h) :
    Lifecycle services h start world calls := by
  have leads := course_leads services calls start world
  have allowed := leads.allowed
  have final : (course services calls start world).trace.foldl State.after start.state =
      (course services calls start world).session.state := by
    rw [← replay_state, leads.session_eq]
  have head : ∀ before event later, (course services calls start world).trace = before ++ event :: later →
      (start.replay before).state.Allows event := by
    intro before event later ht
    rw [ht] at allowed
    rw [replay_state]
    exact State.allows_at allowed
  have one : ∀ before event later handle, (course services calls start world).trace = before ++ event :: later →
      ((start.replay before).state.after event).handle? = some handle → handle = h := by
    intro before event later handle ht hh
    rw [ht] at allowed final
    rw [replay_state] at hh
    apply last handle
    rw [← final]
    exact State.handle?_at allowed hh
  refine { stages := stages, answered := leads.answered, world_told := leads.world_eq.symm, reached := ?reached,
           moves := ?moves, opened_once := ?opened, submitted_once := ?submitted, submissions := ?submissions,
           at_rest := ?rest, ended := fun hs more => course_of_closed services hs more }
  case reached =>
    intro first later hc
    refine ⟨?_, ?_⟩
    · rw [hc, trace_course_append]
      exact List.prefix_append _ _
    · rw [State.visited, List.getLast?_scanl, ← replay_state, (course_leads services first start world).session_eq]
  case moves =>
    intro before event later ht stage
    rcases State.after_cases (head before event later ht) with
      ⟨same, -, -⟩ | ⟨handle, hs, rfl⟩ | ⟨handle, status, ttl, hs, rfl⟩
    · exact Or.inl same
    · have same : handle = h := one before _ later handle ht rfl
      subst same
      exact Or.inr (Or.inl ⟨hs, rfl⟩)
    · have same : handle = h := one before _ later handle ht rfl
      subst same
      exact Or.inr (Or.inr ⟨hs, status, ttl, rfl⟩)
  case opened =>
    have spent := State.countP_hasOpened allowed
    have bound := start.state.openings_le_one
    omega
  case submitted =>
    have spent := State.countP_hasSubmitted allowed
    have bound := start.state.submissions_le_one
    omega
  case submissions =>
    intro before handle status ttl result later ht
    have hs : (start.replay before).state = .opened handle := head before _ later ht
    have same : handle = h := by
      apply one before _ later handle ht
      rw [hs]
      cases result <;> rfl
    subst same
    refine ⟨rfl, ?_⟩
    rw [ht, allowsAll_append] at allowed
    apply State.opening_of_opened allowed.1
    rw [← replay_state]
    exact hs
  case rest =>
    intro before status ttl later ht
    rw [ht, allowsAll_append] at allowed
    exact State.logged_of_closed allowed.2.2

/-- **One record, once.** For every collector and disk (the services, in any world) and every list of calls, a new
session obeys the law for some handle. A session that takes up the open record `h` obeys it for `h` and never makes an
open call. -/
theorem session_lives_once (world : σ) (calls : List Call) :
    (∃ h, Lifecycle services h Session.new world calls) ∧
    ∀ h, Lifecycle services h (Session.resume h) world calls ∧
      ∀ event ∈ (course services calls (Session.resume h) world).trace, event.isOpening = false := by
  refine ⟨?_, fun h => ⟨?_, ?_⟩⟩
  · have leads := course_leads services calls Session.new world
    obtain ⟨h, last⟩ : ∃ h, ∀ handle,
        (course services calls Session.new world).session.state.handle? = some handle → handle = h := by
      cases hh : (course services calls Session.new world).session.state.handle? with
      | none => exact ⟨⟨"record", by decide, by decide⟩, fun handle h' => by cases h'⟩
      | some h => exact ⟨h, fun handle h' => (Option.some.inj h').symm⟩
    refine ⟨h, lifecycle_of_stages services (State.visited_fresh leads.allowed ?_) last⟩
    intro handle h'
    apply last handle
    rw [← leads.session_eq, replay_state]
    exact h'
  · have leads := course_leads services calls (Session.resume h) world
    obtain ⟨j, k, hk⟩ := State.visited_opened leads.allowed
    apply lifecycle_of_stages services ⟨0, j, k, hk⟩
    intro handle h'
    have kept := State.handle?_kept leads.allowed (h := h) rfl
    rw [← leads.session_eq, replay_state] at h'
    exact Option.some.inj (h'.symm.trans kept)
  · intro event he
    have allowed := (course_leads services calls (Session.resume h) world).allowed
    cases event with
    | opening result => exact absurd (State.fresh_of_mem_opening allowed he) State.noConfusion
    | _ => rfl

end CheckReport.Session
