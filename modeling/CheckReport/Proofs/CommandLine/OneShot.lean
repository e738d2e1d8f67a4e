/-
The `run` command against a run of a session.

The command opens a record, adds the lines and hands the record in by itself, with a heading for the failure of each
step and notes in between. What it does to the world is nevertheless what a run of a new session does, and that again is
what the steps of a run do one by one.

- `report_matches`: the command and a run of a new session make the same calls, leave the same world, and end with the
  same handle or the same error; the handle is printed, and nothing else.
- `report_unacceptable`: with arguments that are not acceptable neither does anything, and no collector is looked for.
- `one_shot_agrees`: the three ways agree.
-/
import CheckReport.CommandLine.Lifecycle
import CheckReport.Proofs.Session.Stepwise
import CheckReport.Session.Places

namespace CheckReport.CommandLine

open Session (Acceptable Event Outcome Services arguments_cases inOrder run_cases steps)

variable {σ : Type}

/-- a command did what a run of a session did -/
structure Finished.Matches (finished : Finished σ Handle) (ran : Outcome σ Handle) : Prop where
  world_eq : finished.world = ran.world
  /-- the calls of the collector and the lines written are the same, in the same order; what is logged is not -/
  calls_eq : finished.trace.filter (!·.isLogged) = ran.trace.filter (!·.isLogged)
  /-- the same handle, or the same error under some headings -/
  result_eq : finished.result.mapError Failure.cause = ran.result.mapError Cause.operation
  output_eq : finished.output = match ran.result with
    | .ok handle => handle.text ++ "\n"
    | .error _ => ""

theorem report_matches {search : Search σ} {services : Services σ} {token : String} {minutes : ℤ}
    (h : Acceptable token minutes) {world : σ} (found : search world = .ok services) (lines : List String) :
    (report search token minutes lines world).Matches
      (Session.run services lines token minutes Session.new world) := by
  rcases run_cases services lines token minutes Session.new world with ⟨status, ttl, -, hs, ht, hrun⟩ | ⟨fault, hn, -⟩
  · rw [hrun]
    cases hopen : (Session.begin services Session.new world).result with
    | error e =>
      rw [Outcome.andThen_of_error hopen]
      simp only [report, hs, ht, found, hopen]
      exact ⟨rfl, rfl, rfl, rfl⟩
    | ok handle =>
      rw [Outcome.andThen_of_ok hopen]
      set opening := Session.begin services Session.new world
      cases hwrite : (Session.appendAll services opening.session opening.world lines).result with
      | error e =>
        rw [Outcome.andThen_of_error hwrite]
        simp only [report, hs, ht, found, opening, hopen, hwrite]
        refine ⟨rfl, ?_, rfl, rfl⟩
        simp [Finished.failed, openedNote, Event.isLogged]
      | ok =>
        rw [Outcome.andThen_of_ok hwrite]
        set writing := Session.appendAll services opening.session opening.world lines
        cases hsend : (Session.submit services status ttl writing.session writing.world).result with
        | error e =>
          rw [Outcome.andThen_of_error hsend]
          simp only [report, hs, ht, found, opening, hopen, writing, hwrite, hsend]
          refine ⟨rfl, ?_, rfl, rfl⟩
          simp [openedNote, keptNote, Event.isLogged]
        | ok =>
          rw [Outcome.andThen_of_ok hsend]
          simp only [report, hs, ht, found, opening, hopen, writing, hwrite, hsend]
          refine ⟨rfl, ?_, rfl, rfl⟩
          simp [openedNote, sentNote, Event.isLogged]
  · exact absurd h hn

/-- the first argument that is not acceptable is refused, by a run and by the command, whatever the search would find -/
theorem report_unacceptable {token : String} {minutes : ℤ} (h : ¬ Acceptable token minutes) :
    ∃ fault : ArgumentFault,
      (∀ (services : Services σ) lines session world, Session.run services lines token minutes session world =
        ⟨.error (.invalidArgument fault.message), session, world, []⟩) ∧
      ∀ (search : Search σ) lines world, report search token minutes lines world =
        ⟨.error (.plain (.invalidArgument fault.message)), world, "", []⟩ := by
  rcases arguments_cases token minutes with ⟨status, ttl, hok, -⟩ | ⟨fault, -, hs⟩ | ⟨status, fault, -, hs, ht⟩
  · exact absurd hok h
  · refine ⟨fault, fun services lines session world => ?_, fun search lines world => ?_⟩
    · simp only [Session.run, hs, Session.refuse]
    · simp only [report, hs, Finished.refused]
  · refine ⟨fault, fun services lines session world => ?_, fun search lines world => ?_⟩
    · simp only [Session.run, hs, ht, Session.refuse]
    · simp only [report, hs, ht, Finished.refused]

/-- **Three ways, one effect.** For every collector and disk, session and world, and every list of lines. If status and
minutes are acceptable, `run` is its steps made in order up to the first that fails, and the command that finds the
services does what a run of a new session does. If they are not, `run` and the command refuse the first that is not: the
run changes nothing, and the command looks for no collector, changes nothing and prints nothing. -/
theorem one_shot_agrees (services : Services σ) (lines : List String) (token : String) (minutes : ℤ)
    (session : Session) (world : σ) :
    (Acceptable token minutes →
      (Session.run services lines token minutes session world).map some =
          inOrder services (steps lines token minutes) session world ∧
        ∀ search : Search σ, search world = .ok services →
          (report search token minutes lines world).Matches
            (Session.run services lines token minutes Session.new world)) ∧
    (¬ Acceptable token minutes →
      ∃ fault : ArgumentFault, Session.run services lines token minutes session world =
          ⟨.error (.invalidArgument fault.message), session, world, []⟩ ∧
        ∀ search : Search σ, report search token minutes lines world =
          ⟨.error (.plain (.invalidArgument fault.message)), world, "", []⟩) := by
  refine ⟨fun h => ⟨?_, fun search found => ?_⟩, fun h => ?_⟩
  · exact Session.run_stepwise services h lines session world
  · exact report_matches h found lines
  · obtain ⟨fault, hrun, hreport⟩ := report_unacceptable h
    exact ⟨fault, hrun services lines session world, fun search => hreport search lines world⟩

/-- a line, an acceptable status and an unacceptable number of minutes on a host without programs -/
theorem one_shot_agrees_bare :
    (report (fun _ => .ok (Host.services (.ofProgram ⟨[]⟩ []))) "OKAY" 5 ["disk ok"] Host.bare).Matches
        (Session.run (Host.services (.ofProgram ⟨[]⟩ [])) ["disk ok"] "OKAY" 5 Session.new Host.bare) ∧
      ∃ fault : ArgumentFault,
        Session.run (Host.services (.ofProgram ⟨[]⟩ [])) ["disk ok"] "OKAY" (-1) Session.new Host.bare =
          ⟨.error (.invalidArgument fault.message), Session.new, Host.bare, []⟩ := by
  refine ⟨?_, ?_⟩
  · have agrees := one_shot_agrees (Host.services (.ofProgram ⟨[]⟩ [])) ["disk ok"] "OKAY" 5 Session.new Host.bare
    exact (agrees.1 (by decide)).2 _ rfl
  · have agrees := one_shot_agrees (Host.services (.ofProgram ⟨[]⟩ [])) ["disk ok"] "OKAY" (-1) Session.new Host.bare
    obtain ⟨fault, hrun, -⟩ := agrees.2 (by decide)
    exact ⟨fault, hrun⟩

end CheckReport.CommandLine
