/-
A whole run against its steps.

`run` opens a record, adds all lines and hands the record in. The same can be had step by step: a `begin`, an `append`
for each line and a `finish`, made in order up to the first that fails (`inOrder`). The two look at their arguments at
different points: `run` before anything else, `finish` at the very end.

- `run_stepwise`: with arguments that are acceptable, `run` is its steps, in result, session, world and trace, for every
  collector and disk, every number of lines and every session, and so for a failure at any point.
- `run_course`: so `run` brings the session as far as the first so many of its steps, made one by one.
-/
import CheckReport.Proofs.Session.Course

namespace CheckReport.Session

variable {σ : Type} (services : Services σ)

/-! ## Calls in order -/

/-- make calls one after another, up to the first that fails; the value is the handle that was given first -/
def inOrder : List Call → Session → σ → Outcome σ (Option Handle)
  | [], session, world => ⟨.ok none, session, world, []⟩
  | call :: calls, session, world =>
    (perform services call session world).andThen fun handle session world =>
      (inOrder calls session world).map handle.or

/-- the steps of a run -/
def steps (lines : List String) (token : String) (minutes : ℤ) : List Call :=
  .begin :: (lines.map .append ++ [.finish token minutes])

/-- behind acceptable arguments, to hand in what was checked or to check what is handed in is the same -/
theorem finish_eq_submit {token : String} {minutes : ℤ} {status : Status} {ttl : Ttl}
    (hs : Status.parse token = .ok status) (ht : Ttl.ofMinutes minutes = .ok ttl) (session : Session) (world : σ) :
    finish services token minutes session world = submit services status ttl session world := by
  obtain ⟨state, n⟩ := session
  cases state with
  | opened handle => simp only [finish, hs, ht]
  | fresh => rfl
  | closed handle => rfl

/-- what comes of handing in an open record behind acceptable arguments is what comes of the call -/
theorem finish_opened {token : String} {minutes : ℤ} {status : Status} {ttl : Ttl}
    (hs : Status.parse token = .ok status) (ht : Ttl.ofMinutes minutes = .ok ttl) (handle : Handle) (n : ℕ) (world : σ) :
    let reply := services.collector.submitRecord handle status ttl world
    let outcome := finish services token minutes ⟨.opened handle, n⟩ world
    outcome.result = reply.result ∧ outcome.world = reply.world ∧ outcome.session.appended = n ∧
      (outcome.result ≠ .ok () → outcome.session = ⟨.opened handle, n⟩) := by
  intro reply outcome
  have told : outcome = submit services status ttl ⟨.opened handle, n⟩ world := finish_eq_submit services hs ht _ _
  rw [told]
  exact submit_opened services status ttl handle n world

theorem inOrder_finish (token : String) (minutes : ℤ) (session : Session) (world : σ) :
    inOrder services [.finish token minutes] session world =
      (finish services token minutes session world).map fun _ => none := by
  rw [inOrder, perform, Outcome.andThen_map, Outcome.map_eq_andThen]
  rfl

/-- the steps behind the first: all lines, then the end -/
theorem inOrder_lines (lines : List String) (token : String) (minutes : ℤ) (session : Session) (world : σ) :
    inOrder services (lines.map .append ++ [.finish token minutes]) session world =
      (appendAll services session world lines).andThen fun _ session world =>
        (finish services token minutes session world).map fun _ => none := by
  induction lines generalizing session world with
  | nil =>
    rw [List.map_nil, List.nil_append, inOrder_finish]
    rfl
  | cons text lines ih =>
    rw [List.map_cons, List.cons_append, inOrder, perform, Outcome.andThen_map, appendAll, Outcome.andThen_assoc]
    simp only [ih, Outcome.map_same fun _ => Option.none_or]

/-! ## Main result -/

/-- **A run is its steps.** With acceptable arguments, `run` gives what its steps give when they are made in order up to
the first that fails: the same result, session, world and trace. -/
theorem run_stepwise {token : String} {minutes : ℤ} (h : Acceptable token minutes) (lines : List String)
    (session : Session) (world : σ) :
    (run services lines token minutes session world).map some =
      inOrder services (steps lines token minutes) session world := by
  rcases run_cases services lines token minutes session world with ⟨status, ttl, -, hs, ht, hrun⟩ | ⟨fault, hn, -⟩
  · rw [hrun, steps, inOrder, perform, Outcome.andThen_map, Outcome.map_andThen]
    congr 1
    funext handle session world
    calc ((appendAll services session world lines).andThen fun _ session world =>
            (submit services status ttl session world).andThen fun _ session world =>
              ⟨.ok handle, session, world, []⟩).map some
        = (appendAll services session world lines).andThen fun _ session world =>
            (finish services token minutes session world).map fun _ => some handle := by
          rw [Outcome.map_andThen]
          simp only [← Outcome.map_eq_andThen fun _ => handle, Outcome.map_map, finish_eq_submit services hs ht]
      _ = (inOrder services (lines.map .append ++ [.finish token minutes]) session world).map (some handle).or := by
          rw [inOrder_lines, Outcome.map_andThen]
          simp only [Outcome.map_map, Option.or_none]
  · exact absurd h hn

/-! ## How far a run comes -/

/-- how far an operation has brought a session, whatever it gave back -/
def Outcome.course {α : Type} (outcome : Outcome σ α) : Course σ := ⟨outcome.session, outcome.world, outcome.trace⟩

/-- calls made in order are the first so many of them, made whatever their results -/
theorem inOrder_course (calls : List Call) (session : Session) (world : σ) :
    ∃ k, (inOrder services calls session world).course = course services (calls.take k) session world := by
  induction calls generalizing session world with
  | nil => exact ⟨0, rfl⟩
  | cons call calls ih =>
    rw [inOrder]
    cases h : (perform services call session world).result with
    | error e =>
      refine ⟨1, ?_⟩
      rw [Outcome.andThen_of_error h, List.take_succ_cons, List.take_zero]
      simp only [Outcome.course, course, List.append_nil]
    | ok handle =>
      obtain ⟨k, hk⟩ := ih (perform services call session world).session (perform services call session world).world
      refine ⟨k + 1, ?_⟩
      rw [Outcome.andThen_of_ok h, List.take_succ_cons, course, ← hk]
      rfl

/-- `run` comes as far as the first so many of its steps, whatever its arguments are -/
theorem run_course (lines : List String) (token : String) (minutes : ℤ) (session : Session) (world : σ) :
    ∃ k, (run services lines token minutes session world).course =
      course services ((steps lines token minutes).take k) session world := by
  by_cases h : Acceptable token minutes
  · obtain ⟨k, hk⟩ := inOrder_course services (steps lines token minutes) session world
    refine ⟨k, ?_⟩
    rw [← hk, ← run_stepwise services h]
    rfl
  · rcases run_cases services lines token minutes session world with ⟨status, ttl, hok, -⟩ | ⟨fault, -, hrun⟩
    · exact absurd hok h
    · refine ⟨0, ?_⟩
      rw [hrun]
      rfl

end CheckReport.Session
