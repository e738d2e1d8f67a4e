/-
What a session logs.

Every transition of a session is logged at once, by an entry of level INFO with the handle in it. Most failures are
logged as well, by a warning or an error; those that are not are an argument that is refused and a line that cannot be
added, of which the caller alone is told.

- `begin_announces`, ..., `perform_announces`, `course_announces`: every transition in the trace of a call, and of any
  calls one after another, has its entry right behind it.
- `begin_alarmed`, `submit_alarmed`, `finish_alarmed_iff`, `append_alarmed_iff`, `run_alarmed_iff`: which failures are
  logged.
- `failures_logged_iff`: both, for every call in every session; `failures_unlogged`: two failures without a word.
-/
import CheckReport.Proofs.Session.Failure

namespace CheckReport

namespace Log.Entry

/-- an entry of level WARN or ERROR -/
def isAlarm (entry : Entry) : Bool := entry.level != .info

/-- the text of the handle stands in the message -/
def Names (entry : Entry) (handle : Handle) : Prop := handle.text.toList <:+: entry.message.toList

end Log.Entry

namespace Session

variable {σ α β : Type}

/-! ## Entries of a trace -/

/-- a line that could not be added -/
def Event.isLost : Event → Bool
  | .appending _ _ (.error _) => true
  | _ => false

/-- something is logged as a warning or an error -/
def Alarmed (trace : List Event) : Prop := ∃ entry ∈ trace.filterMap Outcome.logEntry?, entry.isAlarm = true

theorem alarmed_append (first later : List Event) : Alarmed (first ++ later) ↔ Alarmed first ∨ Alarmed later := by
  simp only [Alarmed, List.filterMap_append, List.mem_append, or_and_right, exists_or]

theorem alarmed_of_last (first : List Event) {entry : Log.Entry} (h : entry.isAlarm = true) :
    Alarmed (first ++ [.logged entry]) := by
  rw [alarmed_append]
  exact Or.inr ⟨entry, by simp [Outcome.logEntry?], h⟩

theorem names_of_text {entry : Log.Entry} {handle : Handle} (front back : String)
    (h : entry.message = front ++ handle.text ++ back) : entry.Names handle := by
  refine ⟨front.toList, back.toList, ?_⟩
  rw [h, String.toList_append, String.toList_append]

/-! ## Transitions -/

/-- every event that moves the stage has an entry right behind it that names the handle -/
def State.AnnouncesAll : State → List Event → Prop
  | _, [] => True
  | state, event :: later =>
    (state.after event ≠ state → ∃ entry rest handle, later = .logged entry :: rest ∧ entry.level = .info ∧
        (state.after event).handle? = some handle ∧ entry.Names handle) ∧
      (state.after event).AnnouncesAll later

theorem announces_append {state : State} {first later : List Event} (h : state.AnnouncesAll first)
    (h' : (first.foldl State.after state).AnnouncesAll later) : state.AnnouncesAll (first ++ later) := by
  induction first generalizing state with
  | nil => exact h'
  | cons event first ih =>
    refine ⟨?_, ih h.2 h'⟩
    intro moved
    obtain ⟨entry, rest, handle, rfl, info, named⟩ := h.1 moved
    exact ⟨entry, rest ++ later, handle, rfl, info, named⟩

/-- events that move nothing need no entry -/
theorem announces_of_still {state : State} {trace : List Event}
    (still : ∀ event ∈ trace, state.after event = state) : state.AnnouncesAll trace := by
  induction trace with
  | nil => trivial
  | cons event trace ih =>
    have same := still event List.mem_cons_self
    refine ⟨fun moved => absurd same moved, ?_⟩
    rw [same]
    exact ih fun later h => still later (List.mem_cons_of_mem _ h)

theorem after_logged {state : State} {event : Event} (h : event.isLogged = true) : state.after event = state := by
  cases event with
  | logged entry => rfl
  | _ => cases h

/-- one event behind log entries, with its entry -/
theorem announces_between (state : State) {first : List Event} (logged : ∀ event ∈ first, event.isLogged = true)
    (event : Event) (entry : Log.Entry)
    (announced : state.after event ≠ state → entry.level = .info ∧
      ∃ handle, (state.after event).handle? = some handle ∧ entry.Names handle) :
    state.AnnouncesAll (first ++ [event] ++ [.logged entry]) := by
  have idle : first.foldl State.after state = state := by
    induction first with
    | nil => rfl
    | cons earlier first ih =>
      rw [List.foldl_cons, after_logged (logged _ List.mem_cons_self)]
      exact ih fun event h => logged event (List.mem_cons_of_mem _ h)
  rw [List.append_assoc]
  apply announces_append (announces_of_still fun event h => after_logged (logged event h))
  rw [idle]
  refine ⟨?_, fun moved => absurd rfl moved, trivial⟩
  intro moved
  obtain ⟨info, handle, there, named⟩ := announced moved
  exact ⟨entry, [], handle, rfl, info, there, named⟩

variable {services : Services σ} {session : Session} {world : σ}

theorem announces_andThen {outcome : Outcome σ α} {next : α → Session → σ → Outcome σ β}
    (leads : outcome.LeadsFrom services session world) (h : session.state.AnnouncesAll outcome.trace)
    (hnext : ∀ value, outcome.session.state.AnnouncesAll (next value outcome.session outcome.world).trace) :
    session.state.AnnouncesAll (outcome.andThen next).trace := by
  cases hr : outcome.result with
  | error e =>
    rw [Outcome.andThen_of_error hr]
    exact h
  | ok value =>
    rw [Outcome.andThen_of_ok hr]
    apply announces_append h
    rw [← replay_state, leads.session_eq]
    exact hnext value

variable (services session world)

theorem misuse_announces (operation : String) :
    session.state.AnnouncesAll (misuse operation session world : Outcome σ α).trace :=
  ⟨fun moved => absurd rfl moved, trivial⟩

theorem begin_announces : session.state.AnnouncesAll (begin services session world).trace := by
  rcases begin_cases services session world with ⟨n, handle, rfl, -, h⟩ | ⟨n, e, rfl, -, h⟩ | ⟨-, h⟩
  · rw [h]
    apply announces_between _ (logged_of_map _)
    intro _
    refine ⟨rfl, handle, rfl, ?_⟩
    apply names_of_text "Opened check record " ""
    exact String.append_empty.symm
  · rw [h]
    apply announces_between _ (logged_of_map _)
    intro moved
    exact absurd rfl moved
  · rw [h]
    exact misuse_announces session world "begin"

theorem append_announces (text : String) :
    session.state.AnnouncesAll (append services text session world).trace := by
  rcases append_cases services text session world with
    ⟨n, handle, rfl, -, h⟩ | ⟨n, handle, fault, rfl, -, h⟩ | ⟨-, h⟩
  · rw [h]
    exact ⟨fun moved => absurd rfl moved, trivial⟩
  · rw [h]
    exact ⟨fun moved => absurd rfl moved, trivial⟩
  · rw [h]
    exact misuse_announces session world "append"

theorem appendAll_announces (lines : List String) :
    session.state.AnnouncesAll (appendAll services session world lines).trace := by
  induction lines generalizing session world with
  | nil => trivial
  | cons text lines ih =>
    exact announces_andThen (append_leads services text session world) (append_announces services session world text)
      fun _ => ih _ _

theorem submit_announces (status : Status) (ttl : Ttl) :
    session.state.AnnouncesAll (submit services status ttl session world).trace := by
  rcases submit_cases services status ttl session world with
    ⟨n, handle, rfl, -, h⟩ | ⟨n, handle, e, rfl, -, h⟩ | ⟨-, h⟩
  · rw [h]
    apply announces_between _ (warned_logged status _)
    intro _
    refine ⟨rfl, handle, rfl, ?_⟩
    apply names_of_text "Submitted check record " (" (status " ++ status.token ++ ", ttl " ++ ttl.text ++ "m)")
    simp only [Log.info, String.append_assoc]
    rfl
  · rw [h]
    apply announces_between _ (warned_logged status _)
    intro moved
    exact absurd rfl moved
  · rw [h]
    exact misuse_announces session world "end"

theorem finish_announces (token : String) (minutes : ℤ) :
    session.state.AnnouncesAll (finish services token minutes session world).trace := by
  rcases finish_cases services token minutes session world with
    ⟨status, ttl, -, -, -, -, h⟩ | ⟨fault, -, -, h⟩ | ⟨-, h⟩
  · rw [h]
    exact submit_announces services session world status ttl
  · rw [h]
    trivial
  · rw [h]
    exact misuse_announces session world "end"

theorem run_announces (lines : List String) (token : String) (minutes : ℤ) :
    session.state.AnnouncesAll (run services lines token minutes session world).trace := by
  rcases run_cases services lines token minutes session world with ⟨status, ttl, -, -, -, h⟩ | ⟨fault, -, h⟩
  · rw [h]
    apply announces_andThen (begin_leads services session world) (begin_announces services session world)
    intro handle
    apply announces_andThen (appendAll_leads services lines _ _) (appendAll_announces services _ _ lines)
    intro _
    apply announces_andThen (submit_leads services status ttl _ _) (submit_announces services _ _ status ttl)
    intro _
    trivial
  · rw [h]
    trivial

theorem perform_announces (call : Call) :
    session.state.AnnouncesAll (perform services call session world).trace := by
  cases call with
  | begin => exact begin_announces services session world
  | append text => exact append_announces services session world text
  | finish token minutes => exact finish_announces services session world token minutes
  | submit status ttl => exact submit_announces services session world status ttl
  | run lines token minutes => exact run_announces services session world lines token minutes

/-- **Every transition is logged**, whatever calls are made and whatever they are answered. -/
theorem course_announces (calls : List Call) :
    session.state.AnnouncesAll (course services calls session world).trace := by
  induction calls generalizing session world with
  | nil => trivial
  | cons call calls ih =>
    apply announces_append (perform_announces services session world call)
    rw [← replay_state, (perform_leads services call session world).session_eq]
    exact ih _ _

/-! ## Failures -/

variable {services session world}

theorem misuse_alarmed (operation : String) :
    Alarmed (misuse operation session world : Outcome σ α).trace :=
  alarmed_of_last [] rfl

theorem begin_alarmed {e : Error} (failed : (begin services session world).result = .error e) :
    Alarmed (begin services session world).trace := by
  rcases begin_cases services session world with ⟨n, handle, -, -, h⟩ | ⟨n, e', -, -, h⟩ | ⟨-, h⟩
  · rw [h] at failed
    cases failed
  · rw [h]
    exact alarmed_of_last _ rfl
  · rw [h]
    exact misuse_alarmed "begin"

theorem submit_alarmed {status : Status} {ttl : Ttl} {e : Error}
    (failed : (submit services status ttl session world).result = .error e) :
    Alarmed (submit services status ttl session world).trace := by
  rcases submit_cases services status ttl session world with ⟨n, handle, -, -, h⟩ | ⟨n, handle, e', -, -, h⟩ | ⟨-, h⟩
  · rw [h] at failed
    cases failed
  · rw [h]
    exact alarmed_of_last _ rfl
  · rw [h]
    exact misuse_alarmed "end"

/-- an append that fails is logged exactly if the session is not open: a line that cannot be added is passed over -/
theorem append_alarmed_iff {text : String} {e : Error} (failed : (append services text session world).result = .error e) :
    Alarmed (append services text session world).trace ↔ session.state.isOpen = false := by
  rcases append_cases services text session world with
    ⟨n, handle, rfl, -, h⟩ | ⟨n, handle, fault, rfl, -, h⟩ | ⟨closed, h⟩
  · rw [h] at failed
    cases failed
  · rw [h]
    apply iff_of_false
    · rintro ⟨entry, mem, -⟩
      cases mem
    · exact Bool.noConfusion
  · rw [h]
    exact iff_of_true (misuse_alarmed "append") closed

/-- nor is an argument that is refused -/
theorem finish_alarmed_iff {token : String} {minutes : ℤ} {e : Error}
    (failed : (finish services token minutes session world).result = .error e) :
    Alarmed (finish services token minutes session world).trace ↔
      ¬ (session.state.isOpen = true ∧ ¬ Acceptable token minutes) := by
  rcases finish_cases services token minutes session world with
    ⟨status, ttl, accepted, -, -, -, h⟩ | ⟨fault, unacceptable, opened, h⟩ | ⟨closed, h⟩
  · rw [h] at failed ⊢
    exact iff_of_true (submit_alarmed failed) fun refused => refused.2 accepted
  · rw [h]
    apply iff_of_false
    · rintro ⟨entry, mem, -⟩
      cases mem
    · exact fun logged => logged ⟨opened, unacceptable⟩
  · rw [h, closed]
    exact iff_of_true (misuse_alarmed "end") fun refused => Bool.noConfusion refused.1

/-- a submission of an open session that fails is logged as an error with the handle -/
theorem submit_blames {status : Status} {ttl : Ttl} {handle : Handle} {e : Error}
    (opened : session.state = .opened handle) (failed : (submit services status ttl session world).result = .error e) :
    ∃ entry ∈ (submit services status ttl session world).log, entry.level = .error ∧ entry.Names handle := by
  rcases submit_cases services status ttl session world with
    ⟨n, handle', rfl, -, h⟩ | ⟨n, handle', cause, rfl, -, h⟩ | ⟨closed, -⟩
  · rw [h] at failed
    cases failed
  · cases opened
    rw [h]
    refine ⟨Log.error s!"Submit failed, record {handle.text} kept for resubmission: {cause.message}", ?_, rfl, ?_⟩
    · simp [Outcome.log, Outcome.logEntry?]
    · apply names_of_text "Submit failed, record " (" kept for resubmission: " ++ cause.message)
      simp only [Log.error, String.append_assoc]
      rfl
  · rw [opened] at closed
    cases closed

/-! ## Runs -/

/-- on an open record lines are added without a word, up to the first that is lost -/
theorem appendAll_silent (services : Services σ) (lines : List String) (handle : Handle) (n : ℕ) (world : σ) :
    ¬ Alarmed (appendAll services ⟨.opened handle, n⟩ world lines).trace ∧
      ((appendAll services ⟨.opened handle, n⟩ world lines).trace.any Event.isLost = true ↔
        ∃ e, (appendAll services ⟨.opened handle, n⟩ world lines).result = .error e) := by
  induction lines generalizing n world with
  | nil =>
    refine ⟨?_, iff_of_false Bool.noConfusion ?_⟩
    · rintro ⟨entry, mem, -⟩
      cases mem
    · rintro ⟨e, h⟩
      cases h
  | cons text lines ih =>
    rcases append_cases services text ⟨.opened handle, n⟩ world with
      ⟨m, handle', hs, -, h⟩ | ⟨m, handle', fault, hs, -, h⟩ | ⟨hs, -⟩
    · cases hs
      rw [appendAll, h]
      exact ih (n + 1) _
    · rw [appendAll, h]
      refine ⟨?_, iff_of_true rfl ⟨_, rfl⟩⟩
      rintro ⟨entry, mem, -⟩
      cases mem
    · cases hs

/-- nothing is lost where lines are not added -/
theorem begin_keeps (services : Services σ) (session : Session) (world : σ) :
    (begin services session world).trace.any Event.isLost = false := by
  rcases begin_cases services session world with ⟨n, handle, -, -, h⟩ | ⟨n, e, -, -, h⟩ | ⟨-, h⟩ <;>
    simp [h, misuse, Event.isLost]

theorem submit_keeps (services : Services σ) (status : Status) (ttl : Ttl) (session : Session) (world : σ) :
    (submit services status ttl session world).trace.any Event.isLost = false := by
  have warning : (statusWarning status).any Event.isLost = false := by
    unfold statusWarning
    split <;> rfl
  rcases submit_cases services status ttl session world with ⟨n, handle, -, -, h⟩ | ⟨n, handle, e, -, -, h⟩ | ⟨-, h⟩ <;>
    simp [h, misuse, Event.isLost, warning]

/-- behind an open call that gave a handle, a run that fails is logged exactly if no line is lost -/
theorem run_opened_alarmed_iff {lines : List String} {status : Status} {ttl : Ttl} {handle : Handle} {n : ℕ} {e : Error}
    {outcome : Outcome σ Handle} (rest : outcome =
      (appendAll services ⟨.opened handle, n⟩ world lines).andThen fun _ session world =>
        (submit services status ttl session world).andThen fun _ session world => ⟨.ok handle, session, world, []⟩)
    (failed : outcome.result = .error e) : Alarmed outcome.trace ↔ outcome.trace.any Event.isLost = false := by
  obtain ⟨silent, lost⟩ := appendAll_silent services lines handle n world
  cases ha : (appendAll services ⟨.opened handle, n⟩ world lines).result with
  | error e' =>
    rw [Outcome.andThen_of_error ha] at rest
    subst rest
    apply iff_of_false silent
    · rw [lost.2 ⟨e', ha⟩]
      exact Bool.noConfusion
  | ok =>
    rw [Outcome.andThen_of_ok ha] at rest
    have kept : (appendAll services ⟨.opened handle, n⟩ world lines).trace.any Event.isLost = false := by
      rw [← Bool.not_eq_true, lost]
      rintro ⟨e', h⟩
      rw [ha] at h
      cases h
    set session := (appendAll services ⟨.opened handle, n⟩ world lines).session
    set after := (appendAll services ⟨.opened handle, n⟩ world lines).world
    cases hs : (submit services status ttl session after).result with
    | ok =>
      rw [Outcome.andThen_of_ok hs] at rest
      rw [rest] at failed
      cases failed
    | error e' =>
      rw [Outcome.andThen_of_error hs] at rest
      subst rest
      apply iff_of_true
      · rw [alarmed_append]
        exact Or.inr (submit_alarmed hs)
      · rw [List.any_append, kept, submit_keeps]
        rfl

/-- a run that fails is logged unless an argument is refused or a line is lost; the collector may have logged a warning
when it opened the record all the same -/
theorem run_alarmed_iff {lines : List String} {token : String} {minutes : ℤ} {e : Error}
    (failed : (run services lines token minutes session world).result = .error e) :
    Alarmed (run services lines token minutes session world).trace ↔
      ¬ (¬ Acceptable token minutes ∨
        ((run services lines token minutes session world).trace.any Event.isLost = true ∧
          ∀ entry ∈ (services.collector.openRecord world).log, entry.isAlarm = false)) := by
  rcases run_cases services lines token minutes session world with ⟨status, ttl, accepted, -, -, h⟩ | ⟨fault, bad, h⟩
  · rw [h] at failed ⊢
    have keeps := begin_keeps services session world
    cases hb : (begin services session world).result with
    | error e' =>
      rw [Outcome.andThen_of_error hb]
      apply iff_of_true (begin_alarmed hb)
      rintro (bad | ⟨lost, -⟩)
      · exact bad accepted
      · rw [keeps] at lost
        cases lost
    | ok handle =>
      rcases begin_cases services session world with ⟨n, handle', rfl, -, hbegin⟩ | ⟨n, e', -, -, hbegin⟩ | ⟨-, hbegin⟩
      · have opening : Alarmed (begin services ⟨.fresh, n⟩ world).trace ↔
            ∃ entry ∈ (services.collector.openRecord world).log, entry.isAlarm = true := by
          rw [hbegin, alarmed_append, alarmed_append]
          simp [Alarmed, Outcome.logEntry?, Log.Entry.isAlarm, Log.info]
        have opened : (begin services ⟨.fresh, n⟩ world).session = ⟨.opened handle', n⟩ := congrArg Outcome.session hbegin
        obtain rfl : handle' = handle := Except.ok.inj ((congrArg Outcome.result hbegin).symm.trans hb)
        rw [Outcome.andThen_of_ok hb] at failed ⊢
        simp only [opened] at failed ⊢
        have later := run_opened_alarmed_iff rfl failed
        rw [alarmed_append, opening, later, List.any_append, keeps, Bool.false_or]
        simp only [accepted, not_true_eq_false, false_or, not_and_or, not_forall, Bool.not_eq_true, Bool.not_eq_false,
          exists_prop]
        exact or_comm
      · rw [hbegin] at hb
        cases hb
      · rw [hbegin] at hb
        cases hb
  · rw [h]
    apply iff_of_false
    · rintro ⟨entry, mem, -⟩
      cases mem
    · exact fun logged => logged (Or.inl bad)

/-! ## Main results -/

/-- the call hands the record in and does nothing else -/
def Call.handsIn : Call → Bool
  | .finish _ _ => true
  | .submit _ _ => true
  | _ => false

/-- the call says nothing of it if it fails: it refuses an argument, or a line cannot be added; what the collector logs
when it opens the record for a run is there all the same -/
def Call.Silent (services : Services σ) (session : Session) (world : σ) : Call → Prop
  | .begin => False
  | .append _ => session.state.isOpen = true
  | .finish token minutes => session.state.isOpen = true ∧ ¬ Acceptable token minutes
  | .submit _ _ => False
  | .run lines token minutes => ¬ Acceptable token minutes ∨
      ((Session.run services lines token minutes session world).trace.any Event.isLost = true ∧
        ∀ entry ∈ (services.collector.openRecord world).log, entry.isAlarm = false)

/-- what a call logs -/
structure Logged (services : Services σ) (call : Call) (session : Session) (world : σ) : Prop where
  /-- the trace of the call leads from the session to the one behind it, so every transition is in the trace -/
  told : (perform services call session world).LeadsFrom services session world
  /-- a failure is logged as a warning or an error, unless the call says nothing of it -/
  alarmed_iff : ∀ e, (perform services call session world).result = .error e →
    ((∃ entry ∈ (perform services call session world).log, entry.isAlarm = true) ↔ ¬ call.Silent services session world)
  /-- an open record that is not handed in is named by an error, unless the call says nothing of it -/
  blamed_iff : ∀ handle e, session.state = .opened handle → call.handsIn = true →
    (perform services call session world).result = .error e →
      ((∃ entry ∈ (perform services call session world).log, entry.level = .error ∧ entry.Names handle) ↔
        ¬ call.Silent services session world)
  /-- each transition has an entry of its own, which names the handle -/
  announced : session.state.AnnouncesAll (perform services call session world).trace

theorem error_of_map {outcome : Outcome σ α} {f : α → β} {e : Error} (h : (outcome.map f).result = .error e) :
    outcome.result = .error e := by
  change outcome.result.map f = .error e at h
  cases hr : outcome.result with
  | error e' =>
    rw [hr] at h
    cases h
    rfl
  | ok value =>
    rw [hr] at h
    cases h

theorem perform_alarmed_iff {call : Call} {e : Error} (failed : (perform services call session world).result = .error e) :
    Alarmed (perform services call session world).trace ↔ ¬ call.Silent services session world := by
  cases call with
  | begin => exact iff_of_true (begin_alarmed (error_of_map failed)) id
  | append text =>
    have logged := append_alarmed_iff (error_of_map failed)
    rw [← Bool.not_eq_true] at logged
    exact logged
  | finish token minutes => exact finish_alarmed_iff (error_of_map failed)
  | submit status ttl => exact iff_of_true (submit_alarmed (error_of_map failed)) id
  | run lines token minutes => exact run_alarmed_iff (error_of_map failed)

/-- a submission that fails names the handle, unless an argument is refused -/
theorem finish_blames_iff {token : String} {minutes : ℤ} {handle : Handle} {e : Error}
    (opened : session.state = .opened handle)
    (failed : (finish services token minutes session world).result = .error e) :
    (∃ entry ∈ (finish services token minutes session world).log, entry.level = .error ∧ entry.Names handle) ↔
      ¬ (session.state.isOpen = true ∧ ¬ Acceptable token minutes) := by
  rcases finish_cases services token minutes session world with
    ⟨status, ttl, accepted, -, -, -, h⟩ | ⟨fault, unacceptable, isOpen, h⟩ | ⟨closed, -⟩
  · rw [h] at failed ⊢
    exact iff_of_true (submit_blames opened failed) fun refused => refused.2 accepted
  · rw [h]
    apply iff_of_false
    · rintro ⟨entry, mem, -⟩
      cases mem
    · exact fun logged => logged ⟨isOpen, unacceptable⟩
  · rw [opened] at closed
    cases closed

/-- **Which failures are logged.** All but those of an argument that is refused and of a line that cannot be added; every
transition is. For every collector and every disk, in every session and world. -/
theorem failures_logged_iff (services : Services σ) (call : Call) (session : Session) (world : σ) :
    Logged services call session world := by
  refine { told := perform_leads services call session world, alarmed_iff := fun e => perform_alarmed_iff,
           blamed_iff := ?blamed_iff, announced := perform_announces services session world call }
  case blamed_iff =>
    intro handle e opened handsIn failed
    cases call with
    | finish token minutes => exact finish_blames_iff opened (error_of_map failed)
    | submit status ttl => exact iff_of_true (submit_blames opened (error_of_map failed)) id
    | _ => cases handsIn

/-- a line that cannot be added, as its directory is missing, and a status that is refused: the record is open, both
calls fail, and nothing is logged -/
theorem failures_unlogged :
    let session := Session.resume ⟨"d/r", by decide, by decide⟩
    let bench : Bench := ⟨.empty, Host.bare.disk⟩
    let lost := append Bench.services "x" session bench
    let refused := finish Bench.services "" 5 session bench
    lost.result = .error (.file .notFound) ∧ lost.log = [] ∧
      refused.result = .error (.invalidArgument ArgumentFault.blankStatus.message) ∧ refused.log = [] := by
  intro session bench lost refused
  refine ⟨?_, ?_, ?_, ?_⟩ <;> decide +kernel

end Session

end CheckReport
