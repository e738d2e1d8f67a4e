/-
How the calls of a collector that is a program come out.

A call runs the program once, and how that run went decides the outcome (`Verdict`): a run that did not start or did not
end in time makes the collector unavailable, one that ended without success is a rejection whatever it printed, and one
that ended with success is read.

- `Answer.handle_of_success`: an output is a handle if exactly one of its lines is not blank, and that line is one.
- `call_verdict`: every call has the verdict of its run.
- `calls_classified`: what may be read off the outcome of an open and of a submit call.
-/
import CheckReport.Collector.Command
import CheckReport.Proofs.Text.Trim

namespace CheckReport

/-- what a program has to say for itself: what it printed, or else what it complained, without the blanks at the ends -/
def Response.said (response : Response) : String :=
  let printed := Text.trim (Text.Utf8.lossy response.stdout)
  if printed = "" then Text.trim (Text.Utf8.lossy response.stderr) else printed

/-- exactly one line of the output is not blank, and without the blanks at its ends it is the handle -/
def Response.Prints (response : Response) (handle : Handle) : Prop :=
  ∃ line, Text.contentLines (Text.Utf8.lossy response.stdout) = [line] ∧ handle.text = Text.trim line

/-! ## Answers -/

namespace Answer

theorem lines_eq (answer : Answer) : answer.lines = (Text.contentLines answer.stdout).map Text.trim := by
  rw [lines, Text.contentLines, List.filter_map]
  refine congrArg (List.map Text.trim) (List.filter_congr fun line _ => ?_)
  rw [Function.comp_apply, Bool.not_inj_iff, Bool.eq_iff_iff, List.isEmpty_iff, String.toList_eq_nil_iff,
    Text.trim_eq_empty_iff]

theorem diagnostic_eq (answer : Answer) : answer.diagnostic =
    if Text.trim answer.stdout = "" then Text.trim answer.stderr else Text.trim answer.stdout := by
  unfold diagnostic
  simp only [Text.trim_eq_empty_iff]

theorem handle_of_failure {answer : Answer} (h : answer.success = false) :
    answer.handle = .error (.rejected .begin answer.code answer.diagnostic) := by
  unfold handle
  rw [h]
  rfl

theorem submitted_of_failure {answer : Answer} (h : answer.success = false) :
    answer.submitted = .error (.rejected .finish answer.code answer.diagnostic) := by
  unfold submitted
  rw [h]
  rfl

/-- a success is a handle, or a rejection because of its output -/
theorem handle_of_success {answer : Answer} (h : answer.success = true) :
    (∃ line handle, Text.contentLines answer.stdout = [line] ∧ handle.text = Text.trim line ∧
      answer.handle = .ok handle) ∨
    ((∀ line (handle : Handle), Text.contentLines answer.stdout = [line] → handle.text ≠ Text.trim line) ∧
      ∃ diagnostic, answer.handle = .error (.rejected .begin answer.code diagnostic)) := by
  unfold handle
  rw [h, lines_eq]
  simp only [Bool.not_true, Bool.false_eq_true, if_false]
  rcases Text.contentLines answer.stdout with _ | ⟨line, _ | ⟨second, rest⟩⟩
  · exact Or.inr ⟨fun line handle hc => (by cases hc), _, rfl⟩
  · simp only [List.map_cons, List.map_nil]
    cases hp : Handle.parse (Text.trim line) with
    | ok handle => exact Or.inl ⟨line, handle, rfl, (Handle.parse_eq_ok_iff _ _).1 hp, rfl⟩
    | error fault =>
      refine Or.inr ⟨fun line' handle hc htext => ?_, _, rfl⟩
      cases hc
      rw [(Handle.parse_eq_ok_iff _ _).2 htext] at hp
      cases hp
  · exact Or.inr ⟨fun line handle hc => (by cases hc), _, rfl⟩

end Answer

namespace CommandCollector

variable {α : Type} {phase : Phase} {good : Response → α → Prop} {ran : Except Disk.Fault Response}
  {result : Except Error α}

/-! ## Verdicts -/

/-- the outcome of a call, by how the run went; `good` says for which value a run that ended with 0 is good -/
def Verdict (phase : Phase) (good : Response → α → Prop) (ran : Except Disk.Fault Response)
    (result : Except Error α) : Prop :=
  match ran with
  | .error _ => ∃ reason, result = .error (.unavailable phase reason)
  | .ok response =>
    match response.ending with
    | .running => ∃ reason, result = .error (.unavailable phase reason)
    | .killed => result = .error (.rejected phase none response.said)
    | .exited 0 =>
      (∃ value, (∀ other, good response other ↔ other = value) ∧ result = .ok value) ∨
        ((∀ value, ¬ good response value) ∧ ∃ diagnostic, result = .error (.rejected phase (some 0) diagnostic))
    | .exited code => result = .error (.rejected phase (some code) response.said)

/-- every call has the verdict of its run, if failures are rejected and successes are read -/
theorem call_verdict (c : CommandCollector) (arguments : List String) {read : Answer → Except Error α}
    (fails : ∀ answer, answer.success = false →
      read answer = .error (.rejected phase answer.code answer.diagnostic))
    (reads : ∀ answer (response : Response), answer.success = true →
      answer.stdout = Text.Utf8.lossy response.stdout →
        (∃ value, (∀ other, good response other ↔ other = value) ∧ read answer = .ok value) ∨
        ((∀ value, ¬ good response value) ∧
          ∃ diagnostic, read answer = .error (.rejected phase answer.code diagnostic)))
    (host : Host) :
    Verdict phase good (host.run c.program (arguments.map Text.Utf8.encode)).1
      (c.call phase arguments read host).result := by
  unfold call
  rcases host.run c.program (arguments.map Text.Utf8.encode) with ⟨ran, after⟩
  cases ran with
  | error fault => exact ⟨_, rfl⟩
  | ok response =>
    obtain ⟨stdout, stderr, ending⟩ := response
    cases ending with
    | running => exact ⟨_, rfl⟩
    | killed =>
      simp only [Verdict, Response.answer?, fails ⟨_, _, none, false⟩ rfl, Answer.diagnostic_eq, Response.said]
    | exited code =>
      cases code with
      | zero => exact reads ⟨_, _, some 0, true⟩ ⟨stdout, stderr, .exited 0⟩ rfl rfl
      | succ n =>
        have failed : decide (n + 1 = 0) = false := decide_eq_false (Nat.succ_ne_zero n)
        simp only [Verdict, Response.answer?, failed, fails ⟨_, _, some ((n + 1 : ℕ) : ℤ), false⟩ rfl,
          Answer.diagnostic_eq, Response.said]

theorem openRecord_verdict (c : CommandCollector) (host : Host) :
    Verdict .begin Response.Prints (host.run c.program (c.openArguments.map Text.Utf8.encode)).1
      (c.service.openRecord host).result := by
  refine call_verdict c c.openArguments (fun _ => Answer.handle_of_failure) (fun answer response success printed => ?_)
    host
  unfold Response.Prints
  rw [← printed]
  rcases Answer.handle_of_success success with ⟨line, handle, hc, htext, hr⟩ | ⟨none, hr⟩
  · refine Or.inl ⟨handle, fun other => ⟨?_, ?_⟩, hr⟩
    · rintro ⟨line', hc', htext'⟩
      rw [hc] at hc'
      cases hc'
      exact Handle.text_injective (htext'.trans htext.symm)
    · rintro rfl
      exact ⟨line, hc, htext⟩
  · refine Or.inr ⟨?_, hr⟩
    rintro handle ⟨line, hc, htext⟩
    exact none line handle hc htext

theorem submitRecord_verdict (c : CommandCollector) (handle : Handle) (status : Status) (ttl : Ttl) (host : Host) :
    Verdict .finish (fun _ _ => True)
      (host.run c.program ((c.submitArguments handle status ttl).map Text.Utf8.encode)).1
      (c.service.submitRecord handle status ttl host).result := by
  refine call_verdict c _ (fun _ => Answer.submitted_of_failure) (fun answer response success _ => ?_) host
  refine Or.inl ⟨(), fun _ => iff_of_true trivial rfl, ?_⟩
  rw [Answer.submitted, if_pos success]

/-! ## Classification -/

/-- the program could not be started, or did not end in time -/
def Missed (ran : Except Disk.Fault Response) : Prop :=
  (∃ fault, ran = .error fault) ∨ ∃ response, ran = .ok response ∧ response.ending = .running

/-- what the outcome of a call says of the run, and what the run says of the outcome -/
structure Classified (phase : Phase) (good : Response → α → Prop) (ran : Except Disk.Fault Response)
    (result : Except Error α) : Prop where
  /-- there are two kinds of failure, and each carries the phase -/
  failure : ∀ e, result = .error e →
    (∃ reason, e = .unavailable phase reason) ∨ ∃ code diagnostic, e = .rejected phase code diagnostic
  unavailable_iff : (∃ reason, result = .error (.unavailable phase reason)) ↔ Missed ran
  /-- the same call is worth trying again exactly if the program was not had -/
  retryable_iff : (∃ e, result = .error e ∧ e.retryable = true) ↔ Missed ran
  /-- a program that a signal ended is a rejection without a code, whatever it printed -/
  killed : ∀ response, ran = .ok response → response.ending = .killed →
    result = .error (.rejected phase none response.said)
  /-- a program that ended with another code than 0 is a rejection with this code, whatever it printed -/
  exited : ∀ response (code : ℕ), ran = .ok response → response.ending = .exited code → code ≠ 0 →
    result = .error (.rejected phase (some code) response.said)
  ok_iff : ∀ value, result = .ok value ↔
    ∃ response, ran = .ok response ∧ response.ending = .exited 0 ∧ good response value
  /-- a program that ended with 0 and is good for no value is a rejection with this code -/
  unusable : ∀ response, ran = .ok response → response.ending = .exited 0 → (∀ value, ¬ good response value) →
    ∃ diagnostic, result = .error (.rejected phase (some 0) diagnostic)

/-- a program that was not had -/
theorem classified_of_missed (missed : Missed ran) (h : ∃ reason, result = .error (.unavailable phase reason)) :
    Classified phase good ran result := by
  have not_ended : ∀ response, ran = .ok response → response.ending = .running := by
    rintro response rfl
    rcases missed with ⟨fault, hf⟩ | ⟨other, ho, hrunning⟩
    · cases hf
    · cases ho
      exact hrunning
  obtain ⟨reason, rfl⟩ := h
  refine { failure := ?_, unavailable_iff := ?_, retryable_iff := ?_, killed := ?_, exited := ?_, ok_iff := ?_,
           unusable := ?_ }
  · rintro e he
    cases he
    exact Or.inl ⟨reason, rfl⟩
  · exact iff_of_true ⟨reason, rfl⟩ missed
  · exact iff_of_true ⟨_, rfl, rfl⟩ missed
  · intro response hr he
    rw [not_ended response hr] at he
    cases he
  · intro response code hr he
    rw [not_ended response hr] at he
    cases he
  · intro value
    refine iff_of_false (by simp) ?_
    rintro ⟨response, hr, he, -⟩
    rw [not_ended response hr] at he
    cases he
  · intro response hr he
    rw [not_ended response hr] at he
    cases he

theorem not_missed {response : Response} (ended : response.ending ≠ .running) : ¬ Missed (.ok response) := by
  rintro (⟨fault, hf⟩ | ⟨other, ho, hrunning⟩)
  · cases hf
  · cases ho
    exact ended hrunning

/-- a program that ended, and was rejected -/
theorem classified_of_rejected {response : Response} {code : Option ℤ} {diagnostic : String}
    (ended : response.ending ≠ .running)
    (bad : response.ending = .exited 0 → ∀ value, ¬ good response value)
    (killed : response.ending = .killed → code = none ∧ diagnostic = response.said)
    (exited : ∀ n : ℕ, response.ending = .exited n → code = some (n : ℤ) ∧ (n ≠ 0 → diagnostic = response.said)) :
    Classified phase good (.ok response) (.error (.rejected phase code diagnostic) : Except Error α) := by
  refine { failure := ?_, unavailable_iff := ?_, retryable_iff := ?_, killed := ?_, exited := ?_, ok_iff := ?_,
           unusable := ?_ }
  · rintro e he
    cases he
    exact Or.inr ⟨_, _, rfl⟩
  · refine iff_of_false ?_ (not_missed ended)
    rintro ⟨reason, hr⟩
    cases hr
  · refine iff_of_false ?_ (not_missed ended)
    rintro ⟨e, he, hretry⟩
    cases he
    cases hretry
  · rintro other ho he
    cases ho
    obtain ⟨rfl, rfl⟩ := killed he
    rfl
  · rintro other n ho he hn
    cases ho
    obtain ⟨rfl, hd⟩ := exited n he
    rw [hd hn]
  · refine fun value => iff_of_false (by simp) ?_
    rintro ⟨other, ho, he, hgood⟩
    cases ho
    exact bad he value hgood
  · rintro other ho he -
    cases ho
    obtain ⟨rfl, -⟩ := exited 0 he
    exact ⟨diagnostic, rfl⟩

/-- a program that ended with success, and was good for a value -/
theorem classified_of_ok {response : Response} {value : α} (success : response.ending = .exited 0)
    (sole : ∀ other, good response other ↔ other = value) :
    Classified phase good (.ok response) (.ok value : Except Error α) := by
  have ended : response.ending ≠ .running := by
    rw [success]
    exact Ending.noConfusion
  refine { failure := ?_, unavailable_iff := ?_, retryable_iff := ?_, killed := ?_, exited := ?_, ok_iff := ?_,
           unusable := ?_ }
  · rintro e he
    cases he
  · refine iff_of_false ?_ (not_missed ended)
    rintro ⟨reason, hr⟩
    cases hr
  · refine iff_of_false ?_ (not_missed ended)
    rintro ⟨e, he, -⟩
    cases he
  · rintro other ho he
    cases ho
    rw [success] at he
    cases he
  · rintro other n ho he hn
    cases ho
    rw [success] at he
    cases he
    exact absurd rfl hn
  · intro other
    constructor
    · rintro ho
      cases ho
      exact ⟨response, rfl, success, (sole value).2 rfl⟩
    · rintro ⟨same, hs, -, hgood⟩
      cases hs
      rw [(sole other).1 hgood]
  · rintro other ho - hnone
    cases ho
    exact absurd ((sole value).2 rfl) (hnone value)

theorem classified_of_verdict (h : Verdict phase good ran result) : Classified phase good ran result := by
  cases ran with
  | error fault => exact classified_of_missed (Or.inl ⟨fault, rfl⟩) h
  | ok response =>
    obtain ⟨stdout, stderr, ending⟩ := response
    cases ending with
    | running => exact classified_of_missed (Or.inr ⟨_, rfl, rfl⟩) h
    | killed =>
      obtain rfl : result = _ := h
      exact classified_of_rejected Ending.noConfusion Ending.noConfusion (fun _ => ⟨rfl, rfl⟩)
        (fun n he => Ending.noConfusion he)
    | exited code =>
      cases code with
      | succ n =>
        obtain rfl : result = _ := h
        refine classified_of_rejected Ending.noConfusion (fun he => by cases he) Ending.noConfusion
          (fun code he => ?_)
        cases he
        exact ⟨rfl, fun _ => rfl⟩
      | zero =>
        rcases h with ⟨value, sole, rfl⟩ | ⟨none, diagnostic, rfl⟩
        · exact classified_of_ok rfl sole
        · refine classified_of_rejected Ending.noConfusion (fun _ => none) Ending.noConfusion (fun code he => ?_)
          cases he
          exact ⟨rfl, fun hne => absurd rfl hne⟩

/-- **What the outcome of a call says.** For every collector, and every host whatever its programs do. -/
theorem calls_classified (c : CommandCollector) (host : Host) :
    Classified .begin Response.Prints (host.run c.program (c.openArguments.map Text.Utf8.encode)).1
      (c.service.openRecord host).result ∧
    ∀ handle status ttl, Classified .finish (fun _ _ => True)
      (host.run c.program ((c.submitArguments handle status ttl).map Text.Utf8.encode)).1
      (c.service.submitRecord handle status ttl host).result :=
  ⟨classified_of_verdict (openRecord_verdict c host),
    fun handle status ttl => classified_of_verdict (submitRecord_verdict c handle status ttl host)⟩

end CommandCollector

end CheckReport
