/-
Moves of many sessions.

At a desk, sessions take turns in one world. A move makes a session, or makes a call of one, or calls the collector
directly (`step_cases`), and its trace tells what it does to the world (`step_told`, `run_told`).

- `returned_append`: an append that gives back success has added its line.
- `appended_run`: a session counts the lines that it has added itself since it was made, whatever the others do.
- `run_split`: a run of a session is so many of its steps, one after another. The moves of several sessions that run at
  the same time are thus lists of moves as well, in which the steps of one run stand among those of others.
-/
import CheckReport.Proofs.Session.Stepwise
import CheckReport.Session.Desk

namespace CheckReport.Desk

open Session (Call Event Leads Outcome Services course steps)

variable {σ : Type} (services : Services σ)

/-! ## Kinds of moves -/

namespace Move

/-- the move that makes a call of session `i` -/
def ofCall (i : ℕ) : Call → Move
  | .begin => .begin i
  | .append text => .append i text
  | .finish token minutes => .finish i token minutes
  | .submit status ttl => .submit i status ttl
  | .run lines token minutes => .run i lines token minutes

/-- the session of which the move makes a call -/
def caller? : Move → Option ℕ
  | .begin i => some i
  | .append i _ => some i
  | .finish i _ _ => some i
  | .submit i _ _ => some i
  | .run i _ _ _ => some i
  | _ => none

/-- the session that the move makes -/
def made? : Move → Option ℕ
  | .new i => some i
  | .resume i _ => some i
  | _ => none

theorem caller?_ofCall (i : ℕ) (call : Call) : (ofCall i call).caller? = some i := by cases call <;> rfl

theorem made?_ofCall (i : ℕ) (call : Call) : (ofCall i call).made? = none := by cases call <;> rfl

end Move

theorem step_ofCall (desk : Desk σ) (i : ℕ) (call : Call) :
    desk.step services (.ofCall i call) =
      let outcome := Session.perform services call (desk.sessions i) desk.world
      (outcome.result, { desk.setSession i outcome.session with world := outcome.world }, outcome.trace) := by
  cases call <;> rfl

/-- all that a move can do -/
theorem step_cases (desk : Desk σ) (move : Move) :
    (∃ i session, move.made? = some i ∧ session.appended = 0 ∧
      desk.step services move = (.ok none, desk.setSession i session, [])) ∨
    (∃ i call, move = .ofCall i call) ∨
    (∃ (result : MoveResult) (entries : List Log.Entry) (event : Event),
      move.made? = none ∧ move.caller? = none ∧ services.Answers desk.world event ∧ desk.step services move =
        (result, { desk with world := services.after desk.world event }, entries.map .logged ++ [event])) := by
  cases move with
  | new i => exact Or.inl ⟨i, Session.new, rfl, rfl, rfl⟩
  | resume i handle => exact Or.inl ⟨i, Session.resume handle, rfl, rfl, rfl⟩
  | begin i => exact Or.inr (Or.inl ⟨i, .begin, rfl⟩)
  | append i text => exact Or.inr (Or.inl ⟨i, .append text, rfl⟩)
  | finish i token minutes => exact Or.inr (Or.inl ⟨i, .finish token minutes, rfl⟩)
  | submit i status ttl => exact Or.inr (Or.inl ⟨i, .submit status ttl, rfl⟩)
  | run i lines token minutes => exact Or.inr (Or.inl ⟨i, .run lines token minutes, rfl⟩)
  | openRecord => exact Or.inr (Or.inr ⟨_, _, .opening _, rfl, rfl, rfl, rfl⟩)
  | submitRecord handle status ttl => exact Or.inr (Or.inr ⟨_, _, .submission handle status ttl _, rfl, rfl, rfl, rfl⟩)

/-! ## What moves do to the world -/

theorem step_told (desk : Desk σ) (move : Move) :
    services.AnswersAll desk.world (desk.step services move).2.2 ∧
      services.replay desk.world (desk.step services move).2.2 = (desk.step services move).2.1.world := by
  rcases step_cases services desk move with
    ⟨i, session, -, -, h⟩ | ⟨i, call, rfl⟩ | ⟨result, entries, event, -, -, ha, h⟩
  · rw [h]
    exact ⟨trivial, rfl⟩
  · rw [step_ofCall]
    have leads := Session.perform_leads services call (desk.sessions i) desk.world
    exact ⟨leads.answered, leads.world_eq⟩
  · rw [h]
    have logs : Leads services Session.new desk.world _ Session.new desk.world := Leads.logs entries
    refine ⟨?_, ?_⟩
    · rw [services.answersAll_append, logs.world_eq]
      exact ⟨logs.answered, ha, trivial⟩
    · rw [services.replay_append, logs.world_eq]
      rfl

theorem run_cons (desk : Desk σ) (move : Move) (moves : List Move) :
    desk.run services (move :: moves) =
      let (_, after, trace) := desk.step services move
      ((after.run services moves).1, trace ++ (after.run services moves).2) := rfl

theorem run_told (desk : Desk σ) (moves : List Move) :
    services.AnswersAll desk.world (desk.run services moves).2 ∧
      services.replay desk.world (desk.run services moves).2 = (desk.run services moves).1.world := by
  induction moves generalizing desk with
  | nil => exact ⟨trivial, rfl⟩
  | cons move moves ih =>
    obtain ⟨answers, replays⟩ := step_told services desk move
    obtain ⟨later, last⟩ := ih (desk.step services move).2.1
    rw [run_cons]
    refine ⟨?_, ?_⟩
    · rw [services.answersAll_append, replays]
      exact ⟨answers, later⟩
    · rw [services.replay_append, replays]
      exact last

/-! ## What a session does itself -/

/-- what session `i` has done itself since it was made, if it had done `done` before the moves -/
def own (i : ℕ) : Desk σ → List Event → List Move → List Event
  | _, done, [] => done
  | desk, done, move :: moves =>
    let (_, after, trace) := desk.step services move
    own i after
      (if move.made? = some i then [] else if move.caller? = some i then done ++ trace else done) moves

theorem appended_step {desk : Desk σ} {i : ℕ} {done : List Event} (move : Move)
    (h : (desk.sessions i).appended = done.countP Event.hasAppended) :
    ((desk.step services move).2.1.sessions i).appended =
      (if move.made? = some i then []
        else if move.caller? = some i then done ++ (desk.step services move).2.2 else done).countP
          Event.hasAppended := by
  rcases step_cases services desk move with
    ⟨j, session, hmade, hzero, hstep⟩ | ⟨j, call, rfl⟩ | ⟨result, entries, event, hmade, hcaller, -, hstep⟩
  · rw [hstep, hmade]
    by_cases hj : i = j
    · rw [if_pos (congrArg some hj.symm)]
      simp only [setSession, if_pos hj, hzero, List.countP_nil]
    · have caller : move.caller? = none := by
        cases move with
        | new => rfl
        | resume => rfl
        | _ => cases hmade
      rw [if_neg fun hs => hj (Option.some.inj hs).symm, caller, if_neg (by simp)]
      simp only [setSession, if_neg hj, h]
  · rw [step_ofCall, Move.made?_ofCall, Move.caller?_ofCall, if_neg (by simp)]
    by_cases hj : i = j
    · subst hj
      rw [if_pos rfl, List.countP_append, ← h]
      have leads := Session.perform_leads services call (desk.sessions i) desk.world
      simp only [setSession, if_true, ← leads.session_eq, Session.replay_appended]
    · rw [if_neg fun hs => hj (Option.some.inj hs).symm]
      simp only [setSession, if_neg hj, h]
  · rw [hstep, hmade, hcaller, if_neg (by simp), if_neg (by simp)]
    exact h

/-- a session has added as many lines as it counts, whatever the moves of others are -/
theorem appended_run (desk : Desk σ) (i : ℕ) (done : List Event) (moves : List Move)
    (h : (desk.sessions i).appended = done.countP Event.hasAppended) :
    ((desk.run services moves).1.sessions i).appended =
      (own services i desk done moves).countP Event.hasAppended := by
  induction moves generalizing desk done with
  | nil => exact h
  | cons move moves ih => exact ih _ _ (appended_step services move h)

/-- an append gives back that it succeeded exactly if it added the line through the handle of its session -/
theorem returned_append (desk : Desk σ) (i : ℕ) (text : String) :
    (desk.step services (.append i text)).1 = .ok none ↔ ∃ handle, (desk.sessions i).state = .opened handle ∧
      (desk.step services (.append i text)).2.2 = [.appending handle text (.ok ())] := by
  have call := step_ofCall services desk i (.append text)
  rw [Move.ofCall] at call
  rw [call]
  rcases Session.append_cases services text (desk.sessions i) desk.world with
    ⟨n, handle, hs, -, h⟩ | ⟨n, handle, fault, -, -, h⟩ | ⟨-, h⟩
  · simp only [Session.perform, Outcome.map, h]
    exact iff_of_true rfl ⟨handle, by rw [hs], rfl⟩
  · simp only [Session.perform, Outcome.map, h]
    refine iff_of_false (fun hf => by cases hf) ?_
    rintro ⟨handle', -, hf⟩
    cases hf
  · simp only [Session.perform, Outcome.map, h]
    refine iff_of_false (fun hf => by cases hf) ?_
    rintro ⟨handle', -, hf⟩
    cases hf

/-! ## Runs among other moves -/

theorem setSession_self (desk : Desk σ) (i : ℕ) : desk.setSession i (desk.sessions i) = desk := by
  obtain ⟨world, sessions⟩ := desk
  simp only [setSession, mk.injEq, true_and]
  funext j
  by_cases h : j = i
  · rw [if_pos h, h]
  · rw [if_neg h]

/-- calls of one session, one after another -/
theorem run_ofCalls (desk : Desk σ) (i : ℕ) (calls : List Call) :
    desk.run services (calls.map (.ofCall i)) =
      let reached := course services calls (desk.sessions i) desk.world
      ({ desk.setSession i reached.session with world := reached.world }, reached.trace) := by
  induction calls generalizing desk with
  | nil => exact congrArg (·, []) (setSession_self desk i).symm
  | cons call calls ih =>
    rw [List.map_cons, run_cons, step_ofCall]
    simp only [ih, course]
    simp only [setSession, if_true, Prod.mk.injEq, mk.injEq, true_and, and_true]
    funext j
    by_cases h : j = i
    · rw [if_pos h, if_pos h]
    · rw [if_neg h, if_neg h, if_neg h]

/-- **A run is made of moves.** To run session `i` is to make the first so many of the steps of the run, one by one. -/
theorem run_split (desk : Desk σ) (i : ℕ) (lines : List String) (token : String) (minutes : ℤ) :
    ∃ k, desk.run services [.run i lines token minutes] =
      desk.run services (((steps lines token minutes).take k).map (.ofCall i)) := by
  obtain ⟨k, hk⟩ := Session.run_course services lines token minutes (desk.sessions i) desk.world
  refine ⟨k, ?_⟩
  have once := run_ofCalls services desk i [.run lines token minutes]
  rw [run_ofCalls, ← hk]
  refine once.trans ?_
  simp only [course, List.append_nil]
  rfl

end CheckReport.Desk
