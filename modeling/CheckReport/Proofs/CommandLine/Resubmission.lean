/-
The command that hands a record in again.

A report whose record could not be handed in shows a command line for another attempt. That names the record and its
outcome, but neither the remote host nor the settings file of the report, and nothing in it is quoted. So it repeats
what the report tried only if handle and status can stand unquoted between spaces, and if the default settings name the
collector of the report with the same remote host.

- `report_fails`, `report_resubmits`: what has happened when the command is shown.
- `ofArguments_of_plain`, `plain_of_ofArguments`: the command names the record and its outcome exactly if both can stand
  unquoted.
- `HandsIn.host_eq`, `interpret_idle`: a command line that hands a record in runs one program, any other `end` runs none.
- `resubmission_repeats_iff`: when the command makes the same submission once more.
Refuted: that the command repeats the submission of every report (`address_forgotten`).
-/
import CheckReport.Proofs.Collector.Arguments
import CheckReport.Proofs.CommandLine.Spaces
import CheckReport.Proofs.CommandLine.Split
import CheckReport.Proofs.Session.Failure

namespace CheckReport

open Text.Utf8 (Bytes encode)

namespace CommandLine

open Session (Services appendAll_opened arguments_cases begin_cases submit_cases)

/-! ## When the command is shown -/

/-- what is shown above the error when a submission failed -/
def resubmitHeading (shown : String) : String := "Cannot end sn1ff check results file; resubmit with: " ++ shown

theorem resubmitHeading_injective : Function.Injective resubmitHeading :=
  fun _ _ h => (String.append_right_inj _).1 h

theorem submitHeading_eq (handle : Handle) (status : Status) (ttl : Ttl) :
    submitHeading handle status ttl = resubmitHeading (resubmission handle status ttl) := rfl

theorem append_ne_append {a b : String} {c d : Char} (n : ℕ) (ha : a.toList[n]? = some c) (hb : b.toList[n]? = some d)
    (hcd : c ≠ d) (s t : String) : a ++ s ≠ b ++ t := by
  intro h
  have at_n := congrArg (fun s : String => s.toList[n]?) h
  simp only [String.toList_append] at at_n
  rw [List.getElem?_append_left (List.getElem?_eq_some_iff.1 ha).1,
    List.getElem?_append_left (List.getElem?_eq_some_iff.1 hb).1, ha, hb, Option.some_inj] at at_n
  exact hcd at_n

theorem beginHeading_ne (shown : String) : beginHeading ≠ resubmitHeading shown := by
  have whole : beginHeading = "Cannot begin" ++ " sn1ff check results file" := by decide
  rw [whole]
  exact append_ne_append 7 rfl rfl (by decide) _ _

theorem appendHeading_ne (handle : Handle) (shown : String) : appendHeading handle ≠ resubmitHeading shown := by
  have whole : appendHeading handle = "Cannot append to sn1ff check results file " ++ handle.text := rfl
  rw [whole]
  exact append_ne_append 7 rfl rfl (by decide) _ _

theorem inputHeading_ne (shown : String) : inputHeading ≠ resubmitHeading shown := by
  have whole : inputHeading = "Cannot read" ++ " observations from stdin" := by decide
  rw [whole]
  exact append_ne_append 7 rfl rfl (by decide) _ _

/-- a record was opened, and handing it in with its outcome failed -/
structure Unsubmitted {σ : Type} (services : Services σ) (world after : σ) (handle : Handle) (status : Status)
    (ttl : Ttl) : Prop where
  opened : (services.collector.openRecord world).result = .ok handle
  refused : ∃ before e, (services.collector.submitRecord handle status ttl before).result = .error e ∧
    (services.collector.submitRecord handle status ttl before).world = after

/-- behind an open call that gave a handle, a report fails with a line or with the submission -/
theorem report_opened_fails {σ : Type} {search : Search σ} {services : Services σ} {token : String} {minutes : ℤ}
    {status : Status} {ttl : Ttl} {handle : Handle} {lines : List String} {world : σ} {failure : Failure}
    (hs : Status.parse token = .ok status) (ht : Ttl.ofMinutes minutes = .ok ttl) (found : search world = .ok services)
    (opened : (services.collector.openRecord world).result = .ok handle)
    (failed : (report search token minutes lines world).result = .error failure) :
    failure.headings = [appendHeading handle] ∨
      (failure.headings = [submitHeading handle status ttl] ∧
        Unsubmitted services world (report search token minutes lines world).world handle status ttl) := by
  rcases begin_cases services Session.new world with ⟨n, same, -, hr, hopen⟩ | ⟨n, e, -, hr, -⟩ | ⟨closed, -⟩
  · rw [opened] at hr
    cases hr
    set writing := Session.appendAll services ⟨.opened handle, n⟩ (services.collector.openRecord world).world lines
      with hwriting
    have stays : writing.session.state = .opened handle := (appendAll_opened services lines handle n _).1
    cases hwrite : writing.result with
    | error e =>
      simp only [report, hs, ht, found, hopen, ← hwriting, hwrite, Finished.failed] at failed
      cases failed
      exact Or.inl rfl
    | ok =>
      rcases submit_cases services status ttl writing.session writing.world with
        ⟨k, same, hk, -, hsend⟩ | ⟨k, same, e, hk, refused, hsend⟩ | ⟨closed, -⟩
      · simp only [report, hs, ht, found, hopen, ← hwriting, hwrite, hsend] at failed
        cases failed
      · rw [hk] at stays
        cases stays
        simp only [report, hs, ht, found, hopen, ← hwriting, hwrite, hsend] at failed ⊢
        cases failed
        exact Or.inr ⟨rfl, opened, writing.world, e, refused, rfl⟩
      · rw [stays] at closed
        cases closed
  · rw [opened] at hr
    cases hr
  · exact absurd rfl closed

/-- a report fails before it does anything, or with one of its three steps -/
theorem report_fails {σ : Type} {search : Search σ} {token : String} {minutes : ℤ} {lines : List String} {world : σ}
    {failure : Failure} (failed : (report search token minutes lines world).result = .error failure) :
    failure.headings = [] ∨ failure.headings = [beginHeading] ∨ (∃ handle, failure.headings = [appendHeading handle]) ∨
      ∃ services handle status ttl, search world = .ok services ∧ status.token = token ∧ (ttl.minutes : ℤ) = minutes ∧
        failure.headings = [submitHeading handle status ttl] ∧
        Unsubmitted services world (report search token minutes lines world).world handle status ttl := by
  rcases arguments_cases token minutes with ⟨status, ttl, -, hs, ht⟩ | ⟨fault, -, hs⟩ | ⟨status, fault, -, hs, ht⟩
  · cases found : search world with
    | error e =>
      simp only [report, hs, ht, found, Finished.refused] at failed
      cases failed
      exact Or.inl rfl
    | ok services =>
      rcases begin_cases services Session.new world with ⟨n, handle, -, opened, -⟩ | ⟨n, e, -, -, hopen⟩ | ⟨closed, -⟩
      · rcases report_opened_fails hs ht found opened failed with headed | ⟨headed, unsubmitted⟩
        · exact Or.inr (Or.inr (Or.inl ⟨handle, headed⟩))
        · exact Or.inr (Or.inr (Or.inr ⟨services, handle, status, ttl, rfl, (Status.parse_eq_ok_iff _ _).1 hs,
            (Ttl.ofMinutes_eq_ok_iff _ _).1 ht, headed, unsubmitted⟩))
      · simp only [report, hs, ht, found, hopen, Finished.failed] at failed
        cases failed
        exact Or.inr (Or.inl rfl)
      · exact absurd rfl closed
  · simp only [report, hs, Finished.refused] at failed
    cases failed
    exact Or.inl rfl
  · simp only [report, hs, ht, Finished.refused] at failed
    cases failed
    exact Or.inl rfl

/-- a command is shown only if the submission failed; it names the record that was opened and the outcome -/
theorem report_resubmits {σ : Type} {search : Search σ} {token shown : String} {minutes : ℤ} {lines : List String}
    {world : σ} {failure : Failure} (failed : (report search token minutes lines world).result = .error failure)
    (headed : failure.headings = [resubmitHeading shown]) :
    ∃ services handle status ttl, search world = .ok services ∧ status.token = token ∧ (ttl.minutes : ℤ) = minutes ∧
      Unsubmitted services world (report search token minutes lines world).world handle status ttl ∧
      shown = resubmission handle status ttl := by
  rcases report_fails failed with h | h | ⟨handle, h⟩ | ⟨services, handle, status, ttl, found, hs, ht, h, unsubmitted⟩
  · rw [h] at headed
    cases headed
  · rw [h] at headed
    exact absurd (List.head_eq_of_cons_eq headed) (beginHeading_ne shown)
  · rw [h] at headed
    exact absurd (List.head_eq_of_cons_eq headed) (appendHeading_ne handle shown)
  · rw [h, submitHeading_eq] at headed
    have same := resubmitHeading_injective (List.head_eq_of_cons_eq headed)
    exact ⟨services, handle, status, ttl, found, hs, ht, unsubmitted, same.symm⟩

/-! ## What the command says -/

theorem resubmission_eq (handle : Handle) (status : Status) (ttl : Ttl) :
    resubmission handle status ttl = "sn1ff-check end --handle" ++ " " ++ handle.text ++ " " ++ "--status" ++ " " ++
      status.token ++ " " ++ "--ttl" ++ " " ++ ttl.text := by
  have front : "sn1ff-check end --handle " = "sn1ff-check end --handle" ++ " " := by decide
  have middle : " --status " = " " ++ ("--status" ++ " ") := by decide
  have back : " --ttl " = " " ++ ("--ttl" ++ " ") := by decide
  have whole : resubmission handle status ttl = "sn1ff-check end --handle " ++ handle.text ++ " --status " ++
      status.token ++ " --ttl " ++ ttl.text := rfl
  rw [whole, front, middle, back]
  simp only [String.append_assoc]

/-- the words of the command behind the name of the program -/
def resubmissionWords (handle : Handle) (status : Status) (ttl : Ttl) : List String :=
  (wordsOf (resubmission handle status ttl)).tail

theorem resubmissionWords_eq (handle : Handle) (status : Status) (ttl : Ttl) :
    resubmissionWords handle status ttl = Scope.finish.name :: "--handle" ::
      (wordsOf handle.text ++ "--status" :: (wordsOf status.token ++ "--ttl" :: wordsOf ttl.text)) := by
  have front : wordsOf "sn1ff-check end --handle" = ["sn1ff-check", "end", "--handle"] := by decide +kernel
  have middle : wordsOf "--status" = ["--status"] := wordsOf_word (by decide) (by decide)
  have back : wordsOf "--ttl" = ["--ttl"] := wordsOf_word (by decide) (by decide)
  rw [resubmissionWords, resubmission_eq]
  simp only [wordsOf_append, front, middle, back, List.append_assoc]
  rfl

/-- a text that can stand unquoted between spaces as the value of an option -/
structure Plain (value : String) : Prop where
  spaceless : ' ' ∉ value.toList
  no_option : ∀ c cs, value.toList ≠ '-' :: c :: cs

theorem admitsWord_iff {name : OptionName} (h : name ≠ .ttl) (value : String) :
    name.admitsWord value = true ↔ ∀ c cs, value.toList ≠ '-' :: c :: cs := by
  unfold OptionName.admitsWord
  split
  · rename_i c cs hv
    simp [h, hv]
  · rename_i other
    exact iff_of_true rfl fun c cs hv => other c cs hv

theorem ttl_word (ttl : Ttl) : ' ' ∉ ttl.text.toList ∧ OptionName.ttl.admitsWord ttl.text = true := by
  refine ⟨fun space => absurd (Ttl.isDigit_of_mem_text space) (by decide), ?_⟩
  unfold OptionName.admitsWord
  split
  · rename_i c cs dash
    have first : '-' ∈ ttl.text.toList := dash ▸ List.mem_cons_self
    exact absurd (Ttl.isDigit_of_mem_text first) (by decide)
  · rfl

theorem handle_ne_empty (handle : Handle) : handle.text ≠ "" := by
  intro empty
  have blank := handle.not_blank
  rw [empty] at blank
  cases blank

theorem token_ne_empty (status : Status) : status.token ≠ "" := by
  intro empty
  have blank := status.not_blank
  rw [empty] at blank
  cases blank

section Reading

variable {handle : Handle} {status : Status} (ttl : Ttl)

/-- without spaces the command has one word for each value -/
theorem resubmissionWords_spaceless (hh : ' ' ∉ handle.text.toList) (hs : ' ' ∉ status.token.toList) :
    resubmissionWords handle status ttl = Scope.finish.name ::
      (apart .handle handle.text ++ (apart .status status.token ++ (apart .ttl ttl.text ++ []))) := by
  rw [resubmissionWords_eq, wordsOf_word hh (handle_ne_empty handle), wordsOf_word hs (token_ne_empty status),
    wordsOf_word (ttl_word ttl).1 ttl.text_ne_empty]
  rfl

theorem values_finish : Scope.finish.Values .handle ∧ Scope.finish.Values .status ∧ Scope.finish.Values .ttl := by
  unfold Scope.Values
  decide

/-- the command of a handle and a status that can stand unquoted -/
theorem ofArguments_of_plain (hh : Plain handle.text) (hs : Plain status.token) :
    Invocation.ofArguments (resubmissionWords handle status ttl) =
      .ok ⟨false, defaultConfig, .finish handle.text status.token ttl.minutes none⟩ := by
  obtain ⟨handle_value, status_value, ttl_value⟩ := values_finish
  have written : Written .finish [apart .handle handle.text, apart .status status.token, apart .ttl ttl.text]
      ((.handle, handle.text) :: (outcome status ttl ++ address none)) := by
    refine .cons (gives_apart handle_value ?_) (.cons (gives_apart status_value ?_) ?_)
    · exact (admitsWord_iff (by decide) _).2 hh.no_option
    · exact (admitsWord_iff (by decide) _).2 hs.no_option
    · exact .cons (gives_apart ttl_value (ttl_word ttl).2) .nil
  have front : Written .top [] [] := .nil
  have read := ofArguments_written front written (by decide)
  rw [ofSettings_finish] at read
  rw [resubmissionWords_spaceless ttl hh.spaceless hs.spaceless]
  exact read

/-- words without spaces that the command is made of are read as the record and its outcome only if they can stand
unquoted -/
theorem plain_of_ofArguments {verbose : Bool} {config : Path} {minutes : ℤ} {remoteHost : Option String}
    (read : Invocation.ofArguments (resubmissionWords handle status ttl) =
      .ok ⟨verbose, config, .finish handle.text status.token minutes remoteHost⟩) :
    Plain handle.text ∧ Plain status.token := by
  have spaceless : ∀ word ∈ resubmissionWords handle status ttl, ' ' ∉ word.toList :=
    fun word mem => spaceless_of_mem_wordsOf (List.mem_of_mem_tail mem)
  obtain ⟨hh, hs⟩ := ofArguments_spaceless spaceless read
  obtain ⟨handle_value, status_value, -⟩ := values_finish
  rw [resubmissionWords_spaceless ttl hh hs] at read
  obtain ⟨scanned, told⟩ := scan_of_ofArguments (by decide) read
  obtain ⟨handle_admitted, later, told⟩ := admitted_of_scan handle_value told
  obtain ⟨status_admitted, -⟩ := admitted_of_scan status_value told
  exact ⟨⟨hh, (admitsWord_iff (by decide) _).1 handle_admitted⟩, hs, (admitsWord_iff (by decide) _).1 status_admitted⟩

end Reading

/-! ## What the command does -/

/-- the command line, carried out on the host, has the collector hand in a record with these arguments -/
def HandsIn (words : List String) (host : Host) (c : CommandCollector) (arguments : List String) : Prop :=
  ∃ verbose config remoteHost, ∃ handle : Handle, ∃ status : Status, ∃ ttl : Ttl,
    Invocation.ofArguments words =
      .ok ⟨verbose, config, .finish handle.text status.token ttl.minutes remoteHost⟩ ∧
    Finds config remoteHost host c ∧ arguments = c.submitArguments handle status ttl

theorem trySubmit_host (c : CommandCollector) (handle : Handle) (status : Status) (ttl : Ttl) (host : Host) :
    (trySubmit c handle status ttl host).2 =
      (host.run c.program ((c.submitArguments handle status ttl).map encode)).2 :=
  (submitRecord_corresponds c handle status ttl host).2.symm.trans (c.call_world _ _ _ host)

theorem interpret_of_read {words : List String} {invocation : Invocation}
    (read : Invocation.ofArguments words = .ok invocation) (input : Bytes) (host : Host) :
    interpret words input host = execute invocation input host := by
  unfold interpret
  rw [read]

/-- to have a record handed in is to run the collector's program with the arguments -/
theorem HandsIn.host_eq {words arguments : List String} {host : Host} {c : CommandCollector}
    (h : HandsIn words host c arguments) (input : Bytes) :
    (interpret words input host).host = (host.run c.program (arguments.map encode)).2 := by
  obtain ⟨verbose, config, remoteHost, handle, status, ttl, read, ⟨settings, loaded, found⟩, rfl⟩ := h
  have tried : trySettings config
      (fun settings => tryFinish settings handle.text status.token ttl.minutes remoteHost) host [] =
        tryFinish settings handle.text status.token ttl.minutes remoteHost host [.settings] :=
    check_ok (by rw [loaded]; rfl)
  rw [interpret_of_read read, (execute_endedBy rfl host).host_eq, tried, tryFinish_found found, attempt_host,
    trySubmit_host]

theorem finish_of_ofArguments {words : List String} {verbose : Bool} {config : Path} {command : Command}
    (read : Invocation.ofArguments (Scope.finish.name :: words) = .ok ⟨verbose, config, command⟩) :
    ∃ raw token minutes remoteHost, command = .finish raw token minutes remoteHost := by
  simp only [Invocation.ofArguments, scan_command (show Scope.finish ∈ Scope.commands by decide)] at read
  cases told : scan .finish [] none words with
  | error stop =>
    rw [told] at read
    cases read
  | ok scanned =>
    simp only [told, command?] at read
    split at read
    · cases read
    · rename_i made
      split at made
      · cases made
        cases read
        exact ⟨_, _, _, _, rfl⟩
      · cases made

/-- the submission of a record that the steps in front of it stop, does nothing -/
theorem tryFinish_idle {settings : Settings} {raw token : String} {minutes : ℤ} {remoteHost : Option String}
    {host : Host} (none_sent : ∀ (handle : Handle) (status : Status) (ttl : Ttl) (c : CommandCollector),
      handle.text = raw → status.token = token → (ttl.minutes : ℤ) = minutes → trySearch settings remoteHost host ≠ .ok c)
    (passed : List Step) : (tryFinish settings raw token minutes remoteHost host passed).host = host := by
  unfold tryFinish
  cases hh : Handle.parse raw with
  | error fault => rw [check_error (by rfl)]
  | ok handle =>
    rw [check_ok (by rfl)]
    cases found : trySearch settings remoteHost host with
    | error trouble => rw [check_error found]
    | ok c =>
      rw [check_ok found]
      rcases tryArguments token minutes _ host _ with ⟨status, ttl, hs, ht, -⟩ | ⟨fault, all, step, tried, -⟩
      · exact absurd found (none_sent handle status ttl c ((Handle.parse_eq_ok_iff _ _).1 hh)
          ((Status.parse_eq_ok_iff _ _).1 hs) ((Ttl.ofMinutes_eq_ok_iff _ _).1 ht))
      · rw [tried]

theorem interpret_idle {words : List String} {host : Host}
    (none_sent : ¬ ∃ d arguments, HandsIn (Scope.finish.name :: words) host d arguments) (input : Bytes) :
    (interpret (Scope.finish.name :: words) input host).host = host := by
  cases read : Invocation.ofArguments (Scope.finish.name :: words) with
  | error stop =>
    unfold interpret
    rw [read]
    cases stop <;> rfl
  | ok invocation =>
    obtain ⟨verbose, config, command⟩ := invocation
    obtain ⟨raw, token, minutes, remoteHost, rfl⟩ := finish_of_ofArguments read
    rw [interpret_of_read read, (execute_endedBy rfl host).host_eq]
    cases loaded : Settings.load config host.disk with
    | error fault => rw [trySettings, check_error (by rw [loaded]; rfl)]
    | ok settings =>
      rw [trySettings, check_ok (by rw [loaded]; rfl)]
      refine tryFinish_idle (fun handle status ttl c hh hs ht found => none_sent ?_) _
      subst hh hs ht
      exact ⟨c, _, verbose, config, remoteHost, handle, status, ttl, read, ⟨settings, loaded, found⟩, rfl⟩

theorem ofFinished_failure {α : Type} {finished : Finished Host α} {failure : Failure}
    (h : (Ended.ofFinished finished).failure = some failure) :
    finished.result = .error failure ∧ (Ended.ofFinished finished).host = finished.world := by
  obtain ⟨result, world, output, trace⟩ := finished
  cases result with
  | ok value => cases h
  | error other =>
    cases h
    exact ⟨rfl, rfl⟩

/-- what has happened when a report on a host shows a command -/
theorem interpret_resubmits {words : List String} {input : Bytes} {host : Host} {verbose : Bool} {config : Path}
    {token shown : String} {minutes : ℤ} {lines : List String} {stdin : Bool} {remoteHost : Option String}
    {failure : Failure}
    (read : Invocation.ofArguments words = .ok ⟨verbose, config, .run token minutes lines stdin remoteHost⟩)
    (failed : (interpret words input host).failure = some failure)
    (headed : failure.headings = [resubmitHeading shown]) :
    ∃ c handle status ttl, Finds config remoteHost host c ∧ status.token = token ∧ (ttl.minutes : ℤ) = minutes ∧
      Unsubmitted (Host.services c) host (interpret words input host).host handle status ttl ∧
      shown = resubmission handle status ttl := by
  rw [interpret_of_read read] at failed ⊢
  simp only [execute] at failed ⊢
  cases loaded : Settings.load config host.disk with
  | error fault =>
    rw [loaded] at failed
    cases failed
    cases headed
  | ok settings =>
    simp only [loaded] at failed ⊢
    cases observed : observations stdin input with
    | error fault =>
      rw [observed] at failed
      cases failed
      exact absurd (List.head_eq_of_cons_eq headed) (inputHeading_ne shown)
    | ok more =>
      simp only [observed] at failed ⊢
      obtain ⟨stopped, left⟩ := ofFinished_failure failed
      rw [left]
      obtain ⟨services, handle, status, ttl, searched, hs, ht, unsubmitted, same⟩ := report_resubmits stopped headed
      rcases search_cases settings remoteHost host with ⟨c, found, tried⟩ | ⟨fault, found, -⟩
      · rw [found] at searched
        cases searched
        exact ⟨c, handle, status, ttl, ⟨settings, loaded, tried⟩, hs, ht, unsubmitted, same⟩
      · rw [found] at searched
        cases searched

/-! ## Main result -/

/-- what the command does on the host that a failed submission left -/
structure Resubmits (command : List String) (after : Host) (c : CommandCollector) (handle : Handle) (status : Status)
    (ttl : Ttl) : Prop where
  /-- if it has a collector hand in a record, it runs the collector's program with the arguments -/
  runs : ∀ d arguments, HandsIn command after d arguments → ∀ input,
    (interpret command input after).host = (after.run d.program (arguments.map encode)).2
  /-- else it runs nothing -/
  idle : (¬ ∃ d arguments, HandsIn command after d arguments) → ∀ input, (interpret command input after).host = after
  /-- it runs the same program with the same arguments exactly if handle and status can stand unquoted between spaces,
  and the default settings name this program, the same arguments in front of each call and the same remote host -/
  repeats_iff : (∃ d, HandsIn command after d (c.submitArguments handle status ttl) ∧ d.program = c.program) ↔
    Plain handle.text ∧ Plain status.token ∧ ∃ d, Finds defaultConfig none after d ∧ d.program = c.program ∧
      d.args = c.args ∧ d.remoteHost = c.remoteHost

theorem resubmissionWords_resubmits (after : Host) (c : CommandCollector) (handle : Handle) (status : Status)
    (ttl : Ttl) : Resubmits (resubmissionWords handle status ttl) after c handle status ttl := by
  refine { runs := fun d arguments h input => h.host_eq input, idle := fun none_sent input => ?_,
           repeats_iff := ⟨?_, ?_⟩ }
  · rw [resubmissionWords_eq] at none_sent ⊢
    exact interpret_idle none_sent input
  · rintro ⟨d, ⟨verbose, config, remoteHost, handle', status', ttl', read, found, told⟩, program⟩
    obtain ⟨args, address, rfl, rfl, rfl⟩ := CommandCollector.submitArguments_inj told
    obtain ⟨handle_plain, status_plain⟩ := plain_of_ofArguments ttl read
    have default_read := ofArguments_of_plain ttl handle_plain status_plain
    rw [read] at default_read
    cases default_read
    exact ⟨handle_plain, status_plain, d, found, program, args.symm, address.symm⟩
  · rintro ⟨handle_plain, status_plain, d, found, program, args, address⟩
    have read := ofArguments_of_plain ttl handle_plain status_plain
    refine ⟨d, ⟨false, defaultConfig, none, handle, status, ttl, read, found, ?_⟩, program⟩
    rw [CommandCollector.submitArguments, CommandCollector.submitArguments, args, address]

/-- **The command repeats the submission only under conditions.** For every report, every input, and every host whatever
its files and programs are: if the submission fails, the command that is shown names the handle that the collector gave
and the outcome of the report. It leaves out the remote host and the settings file, and does not quote. -/
theorem resubmission_repeats_iff {words : List String} {input : Bytes} {host : Host} {verbose : Bool} {config : Path}
    {token shown : String} {minutes : ℤ} {lines : List String} {stdin : Bool} {remoteHost : Option String}
    {failure : Failure}
    (read : Invocation.ofArguments words = .ok ⟨verbose, config, .run token minutes lines stdin remoteHost⟩)
    (failed : (interpret words input host).failure = some failure)
    (headed : failure.headings = [resubmitHeading shown]) :
    let after := (interpret words input host).host
    ∃ c handle status ttl before e, Finds config remoteHost host c ∧ (c.service.openRecord host).result = .ok handle ∧
      status.token = token ∧ (ttl.minutes : ℤ) = minutes ∧
      (c.service.submitRecord handle status ttl before).result = .error e ∧
      after = (before.run c.program ((c.submitArguments handle status ttl).map encode)).2 ∧
      Resubmits (wordsOf shown).tail after c handle status ttl := by
  intro after
  obtain ⟨c, handle, status, ttl, found, hs, ht, ⟨opened, before, e, refused, left⟩, rfl⟩ :=
    interpret_resubmits read failed headed
  have attempted : after = (before.run c.program ((c.submitArguments handle status ttl).map encode)).2 :=
    left.symm.trans (c.call_world _ _ _ before)
  exact ⟨c, handle, status, ttl, before, e, found, opened, hs, ht, refused, attempted,
    resubmissionWords_resubmits after c handle status ttl⟩

/-- a host with a client that opens a record and takes none -/
def refusingHost : Host :=
  let name : Disk.Name := encode "sn1ff_client"
  let client : Disk.Node := ⟨.file [], .newDirectory, ⟨0, 0⟩, ⟨0⟩⟩
  let answer : Program := fun _ _ arguments =>
    if arguments = [encode "-b"] then .ok ⟨encode "r.snff\n", [], .exited 0⟩ else .ok ⟨[], encode "down", .exited 1⟩
  { Host.bare with
    disk := Host.bare.disk.put [name] client
    searchPath := encode "/"
    program? := fun loc => if loc = [name] then some answer else none }

/-- a status with a space -/
theorem resubmission_repeats_iff_spaced :
    let words := ["run", "--status", "NOT OK", "--ttl", "5"]
    let shown := "sn1ff-check end --handle r.snff --status NOT OK --ttl 5"
    let failure : Failure := .under (resubmitHeading shown) (.rejected .finish (some 1) "down")
    let after := (interpret words [] refusingHost).host
    Invocation.ofArguments words = .ok ⟨false, defaultConfig, .run "NOT OK" 5 [] false none⟩ ∧
      (interpret words [] refusingHost).failure = some failure ∧ failure.headings = [resubmitHeading shown] ∧
      ∃ c handle status ttl before e, Finds defaultConfig none refusingHost c ∧
        (c.service.submitRecord handle status ttl before).result = .error e ∧
        after = (before.run c.program ((c.submitArguments handle status ttl).map encode)).2 ∧
        ¬ ∃ d, HandsIn (wordsOf shown).tail after d (c.submitArguments handle status ttl) ∧ d.program = c.program := by
  intro words shown failure after
  have read : Invocation.ofArguments words = .ok ⟨false, defaultConfig, .run "NOT OK" 5 [] false none⟩ := by
    decide +kernel
  have failed : (interpret words [] refusingHost).failure = some failure := by decide +kernel
  obtain ⟨c, handle, status, ttl, before, e, found, -, token, -, refused, left, resubmits⟩ :=
    resubmission_repeats_iff read failed rfl
  refine ⟨read, failed, rfl, c, handle, status, ttl, before, e, found, refused, left, fun again => ?_⟩
  obtain ⟨-, plain, -⟩ := resubmits.repeats_iff.1 again
  rw [token] at plain
  exact plain.spaceless (by decide)

/-- the remote host is forgotten: the client was called with it, and the command that is shown calls it without -/
theorem address_forgotten :
    let words := ["run", "--status", "OKAY", "--ttl", "5", "--remote-host", "backup"]
    let shown := "sn1ff-check end --handle r.snff --status OKAY --ttl 5"
    let ended := interpret words [] refusingHost
    let again := interpret (wordsOf shown).tail [] ended.host
    let told := ["-e", "-f", "r.snff", "-s", "OKAY", "-t", "5"]
    ended.failure = some (.under (resubmitHeading shown) (.rejected .finish (some 1) "down")) ∧
      ended.host.launches.map Launch.arguments = [[encode "-b"], (told ++ ["-a", "backup"]).map encode] ∧
      again.host.launches.map Launch.arguments =
        [[encode "-b"], (told ++ ["-a", "backup"]).map encode, told.map encode] := by
  decide +kernel

end CommandLine

end CheckReport
