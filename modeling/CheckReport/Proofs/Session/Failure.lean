/-
Failures of a session's operations.

An operation that fails leaves the session as it was, and how many calls of the collector it makes is decided before it
makes any: by the stage of the record, and for `finish` by its arguments, which are looked at behind the stage there and
in front of it by `run`. An operation that the stage or an argument forbids touches nothing.

- `failures_accounted`: all of this, for a collector whose errors are its own (`Collector.Proper`).
- `CommandCollector.proper`: a collector that is a program is one.
-/
import CheckReport.Proofs.Session.Course
import CheckReport.Session.Places

namespace CheckReport

namespace Error

/-- an error that a collector causes: it cannot be reached, or it answers no -/
def isCollectors : Error → Bool
  | .unavailable _ _ => true
  | .rejected _ _ _ => true
  | _ => false

/-- the operation does not fit the stage of the record -/
def isInvalidState : Error → Bool
  | .invalidState _ _ => true
  | _ => false

def isInvalidArgument : Error → Bool
  | .invalidArgument _ => true
  | _ => false

/-- nothing was tried: the stage or an argument forbids it -/
def isForbidden (e : Error) : Bool := e.isInvalidState || e.isInvalidArgument

theorem isForbidden_of_isCollectors {e : Error} (h : e.isCollectors = true) : e.isForbidden = false := by
  cases e with
  | unavailable phase reason => rfl
  | rejected phase code diagnostic => rfl
  | _ => cases h

end Error

/-- a collector all of whose errors are its own -/
structure Collector.Proper {σ : Type} (collector : Collector σ) : Prop where
  openRecord : ∀ world e, (collector.openRecord world).result = .error e → e.isCollectors = true
  submitRecord : ∀ handle status ttl world e,
    (collector.submitRecord handle status ttl world).result = .error e → e.isCollectors = true

/-! ## Programs as collectors -/

theorem Answer.handle_error {answer : Answer} {e : Error} (h : answer.handle = .error e) : e.isCollectors = true := by
  unfold Answer.handle at h
  split at h
  · cases h
    rfl
  · split at h
    · cases h
      rfl
    · split at h
      · cases h
      · cases h
        rfl
    · cases h
      rfl

theorem Answer.submitted_error {answer : Answer} {e : Error} (h : answer.submitted = .error e) :
    e.isCollectors = true := by
  unfold Answer.submitted at h
  split at h
  · cases h
  · cases h
    rfl

namespace CommandCollector

variable (c : CommandCollector)

theorem call_error {α : Type} {phase : Phase} {arguments : List String} {read : Answer → Except Error α} {host : Host}
    {e : Error} (hread : ∀ answer, read answer = .error e → e.isCollectors = true)
    (h : (c.call phase arguments read host).result = .error e) : e.isCollectors = true := by
  unfold call at h
  split at h
  · cases h
    rfl
  · split at h
    · exact hread _ h
    · cases h
      rfl

theorem proper : c.service.Proper where
  openRecord _ _ h := c.call_error (fun _ => Answer.handle_error) h
  submitRecord _ _ _ _ _ h := c.call_error (fun _ => Answer.submitted_error) h

end CommandCollector

namespace Session

variable {σ α : Type}

/-- the outcome is an error of a kind -/
def Outcome.FailsBy (kind : Error → Bool) (outcome : Outcome σ α) : Prop :=
  ∃ e, outcome.result = .error e ∧ kind e = true

/-! ## The law -/

/-- nothing happened but logging: no call of the collector, no access to a file -/
structure Untouched (session : Session) (world : σ) (outcome : Outcome σ α) : Prop where
  session_eq : outcome.session = session
  world_eq : outcome.world = world
  logged : ∀ event ∈ outcome.trace, event.isLogged = true

/-- what the failures of an operation leave, when it is misused and when it refuses an argument, and how many open and
submit calls it makes -/
structure Accounts (session : Session) (world : σ) (outcome : Outcome σ α) (misused refused : Prop)
    (opens submits : ℕ) : Prop where
  /-- stage, handle and number of lines stay as they were -/
  atomic : ∀ e, outcome.result = .error e → outcome.session = session
  misused_iff : outcome.FailsBy Error.isInvalidState ↔ misused
  refused_iff : outcome.FailsBy Error.isInvalidArgument ↔ refused
  opens_eq : outcome.trace.countP Event.isOpening = opens
  submits_eq : outcome.trace.countP Event.isSubmission = submits
  forbidden : outcome.FailsBy Error.isForbidden → Untouched session world outcome

/-- the accounts of all operations of a session in a world -/
structure Accounted (services : Services σ) (session : Session) (world : σ) : Prop where
  /-- every call that an operation makes is in its trace, and nothing else happens to the session and the world -/
  told : ∀ call, (perform services call session world).LeadsFrom services session world
  begin : Accounts session world (begin services session world)
    (session.state ≠ .fresh) False (if session.state = .fresh then 1 else 0) 0
  append : ∀ text, Accounts session world (append services text session world)
    (session.state.isOpen = false) False 0 0
  submit : ∀ status ttl, Accounts session world (submit services status ttl session world)
    (session.state.isOpen = false) False 0 (if session.state.isOpen = true then 1 else 0)
  finish : ∀ token minutes, Accounts session world (finish services token minutes session world)
    (session.state.isOpen = false)
    (session.state.isOpen = true ∧ (Text.isBlankText token = true ∨ minutes < 0 ∨ 2147483647 < minutes))
    0 (if session.state.isOpen = true ∧ Acceptable token minutes then 1 else 0)
  run : ∀ lines token minutes, (run services lines token minutes session world).FailsBy Error.isForbidden →
    Untouched session world (run services lines token minutes session world)

/-! ## Failures and calls of an outcome -/

variable {services : Services σ} {session : Session} {world : σ}

theorem failsBy_error {kind : Error → Bool} {e : Error} {trace : List Event} :
    (⟨.error e, session, world, trace⟩ : Outcome σ α).FailsBy kind ↔ kind e = true := by
  refine ⟨?_, fun h => ⟨e, rfl, h⟩⟩
  rintro ⟨e', h, hk⟩
  cases h
  exact hk

theorem failsBy_forbidden_iff {outcome : Outcome σ α} : outcome.FailsBy Error.isForbidden ↔
    outcome.FailsBy Error.isInvalidState ∨ outcome.FailsBy Error.isInvalidArgument := by
  constructor
  · rintro ⟨e, h, hk⟩
    rcases Bool.or_eq_true_iff.1 hk with hk | hk
    · exact Or.inl ⟨e, h, hk⟩
    · exact Or.inr ⟨e, h, hk⟩
  · rintro (⟨e, h, hk⟩ | ⟨e, h, hk⟩)
    · exact ⟨e, h, Bool.or_eq_true_iff.2 (Or.inl hk)⟩
    · exact ⟨e, h, Bool.or_eq_true_iff.2 (Or.inr hk)⟩

theorem countP_of_logged {trace : List Event} (h : ∀ event ∈ trace, event.isLogged = true) :
    trace.countP Event.isOpening = 0 ∧ trace.countP Event.isSubmission = 0 := by
  refine ⟨List.countP_eq_zero.2 ?_, List.countP_eq_zero.2 ?_⟩
  · intro event he
    have := h event he
    cases event <;> simp_all [Event.isLogged, Event.isOpening]
  · intro event he
    have := h event he
    cases event <;> simp_all [Event.isLogged, Event.isSubmission]

/-- one event between log entries -/
theorem countP_between {first : List Event} (h : ∀ event ∈ first, event.isLogged = true) (event : Event)
    (entry : Log.Entry) :
    (first ++ [event] ++ [Event.logged entry]).countP Event.isOpening = (if event.isOpening then 1 else 0) ∧
      (first ++ [event] ++ [Event.logged entry]).countP Event.isSubmission = if event.isSubmission then 1 else 0 := by
  obtain ⟨hopen, hsubmit⟩ := countP_of_logged h
  refine ⟨?_, ?_⟩
  · rw [List.countP_append, List.countP_append, hopen]
    simp [List.countP_singleton, Event.isOpening]
  · rw [List.countP_append, List.countP_append, hsubmit]
    simp [List.countP_singleton, Event.isSubmission]

theorem misuse_accounts (operation : String) :
    Accounts session world (misuse operation session world : Outcome σ α) True False 0 0 := by
  have logged : ∀ event ∈ (misuse operation session world : Outcome σ α).trace, event.isLogged = true := by
    intro event he
    rw [List.mem_singleton.1 he]
    rfl
  refine ⟨fun _ _ => rfl, iff_of_true (failsBy_error.2 rfl) trivial, ?_, rfl, rfl, fun _ => ⟨rfl, rfl, logged⟩⟩
  exact iff_of_false (fun hf => by cases failsBy_error.1 hf) id

theorem refuse_accounts (fault : ArgumentFault) :
    Accounts session world (refuse fault session world : Outcome σ α) False True 0 0 := by
  refine ⟨fun _ _ => rfl, ?_, iff_of_true (failsBy_error.2 rfl) trivial, rfl, rfl, fun _ => ⟨rfl, rfl, ?_⟩⟩
  · exact iff_of_false (fun hf => by cases failsBy_error.1 hf) id
  · intro event he
    cases he

/-- an outcome that is a success, or fails by an error that forbids nothing and leaves the session alone -/
theorem accounts_of_allowed {outcome : Outcome σ α} {opens submits : ℕ}
    (atomic : ∀ e, outcome.result = .error e → outcome.session = session ∧ e.isForbidden = false)
    (opens_eq : outcome.trace.countP Event.isOpening = opens)
    (submits_eq : outcome.trace.countP Event.isSubmission = submits) :
    Accounts session world outcome False False opens submits := by
  have allowed : ¬ outcome.FailsBy Error.isForbidden := by
    rintro ⟨e, he, hk⟩
    rw [(atomic e he).2] at hk
    cases hk
  rw [failsBy_forbidden_iff, not_or] at allowed
  refine ⟨fun e he => (atomic e he).1, iff_of_false allowed.1 id, iff_of_false allowed.2 id, opens_eq, submits_eq, ?_⟩
  rw [failsBy_forbidden_iff]
  rintro (hf | hf)
  · exact absurd hf allowed.1
  · exact absurd hf allowed.2

/-- the same accounts, stated otherwise -/
theorem Accounts.congr {outcome : Outcome σ α} {misused refused misused' refused' : Prop} {opens submits opens' : ℕ}
    {submits' : ℕ} (h : Accounts session world outcome misused refused opens submits) (hm : misused ↔ misused')
    (hr : refused ↔ refused') (ho : opens = opens') (hs : submits = submits') :
    Accounts session world outcome misused' refused' opens' submits' := by
  rw [← hm.eq, ← hr.eq, ← ho, ← hs]
  exact h

/-! ## The operations one by one -/

theorem begin_accounts (proper : services.collector.Proper) :
    Accounts session world (begin services session world)
      (session.state ≠ .fresh) False (if session.state = .fresh then 1 else 0) 0 := by
  rcases begin_cases services session world with ⟨n, handle, rfl, hr, h⟩ | ⟨n, e, rfl, hr, h⟩ | ⟨hs, h⟩
  · have count := countP_between (logged_of_map (services.collector.openRecord world).log) (.opening (.ok handle))
      (Log.info s!"Opened check record {handle.text}")
    rw [h]
    refine (accounts_of_allowed ?_ count.1 count.2).congr (by simp) Iff.rfl rfl rfl
    exact fun e he => by cases he
  · have count := countP_between (logged_of_map (services.collector.openRecord world).log) (.opening (.error e))
      (Log.warn s!"Could not open check record: {e.message}")
    rw [h]
    refine (accounts_of_allowed ?_ count.1 count.2).congr (by simp) Iff.rfl rfl rfl
    intro e' he
    cases he
    exact ⟨rfl, Error.isForbidden_of_isCollectors (proper.openRecord world e hr)⟩
  · rw [h]
    exact (misuse_accounts "begin").congr (iff_of_true trivial hs) Iff.rfl (if_neg hs).symm rfl

theorem append_accounts (text : String) :
    Accounts session world (append services text session world) (session.state.isOpen = false) False 0 0 := by
  rcases append_cases services text session world with
    ⟨n, handle, rfl, -, h⟩ | ⟨n, handle, fault, rfl, -, h⟩ | ⟨hs, h⟩
  · rw [h]
    refine (accounts_of_allowed ?_ rfl rfl).congr (by simp [State.isOpen]) Iff.rfl rfl rfl
    exact fun e he => by cases he
  · rw [h]
    refine (accounts_of_allowed ?_ rfl rfl).congr (by simp [State.isOpen]) Iff.rfl rfl rfl
    intro e he
    cases he
    exact ⟨rfl, rfl⟩
  · rw [h]
    exact (misuse_accounts "append").congr (iff_of_true trivial hs) Iff.rfl rfl rfl

theorem submit_accounts (proper : services.collector.Proper) (status : Status) (ttl : Ttl) :
    Accounts session world (submit services status ttl session world)
      (session.state.isOpen = false) False 0 (if session.state.isOpen = true then 1 else 0) := by
  rcases submit_cases services status ttl session world with
    ⟨n, handle, rfl, -, h⟩ | ⟨n, handle, e, rfl, hr, h⟩ | ⟨hs, h⟩
  · have count := countP_between (warned_logged status (services.collector.submitRecord handle status ttl world).log)
      (.submission handle status ttl (.ok ()))
      (Log.info s!"Submitted check record {handle.text} (status {status.token}, ttl {ttl.text}m)")
    rw [h]
    refine (accounts_of_allowed ?_ count.1 count.2).congr (by simp [State.isOpen]) Iff.rfl rfl rfl
    exact fun e he => by cases he
  · have count := countP_between (warned_logged status (services.collector.submitRecord handle status ttl world).log)
      (.submission handle status ttl (.error e))
      (Log.error s!"Submit failed, record {handle.text} kept for resubmission: {e.message}")
    rw [h]
    refine (accounts_of_allowed ?_ count.1 count.2).congr (by simp [State.isOpen]) Iff.rfl rfl rfl
    intro e' he
    cases he
    exact ⟨rfl, Error.isForbidden_of_isCollectors (proper.submitRecord handle status ttl world e hr)⟩
  · rw [h, hs]
    exact (misuse_accounts "end").congr (iff_of_true trivial rfl) Iff.rfl rfl rfl

theorem not_acceptable_iff (token : String) (minutes : ℤ) :
    ¬ Acceptable token minutes ↔ Text.isBlankText token = true ∨ minutes < 0 ∨ 2147483647 < minutes := by
  unfold Acceptable
  cases Text.isBlankText token with
  | true => simp
  | false =>
    simp only [true_and, Bool.false_eq_true, false_or]
    omega

theorem finish_accounts (proper : services.collector.Proper) (token : String) (minutes : ℤ) :
    Accounts session world (finish services token minutes session world) (session.state.isOpen = false)
      (session.state.isOpen = true ∧ (Text.isBlankText token = true ∨ minutes < 0 ∨ 2147483647 < minutes))
      0 (if session.state.isOpen = true ∧ Acceptable token minutes then 1 else 0) := by
  rw [← not_acceptable_iff]
  rcases finish_cases services token minutes session world with
    ⟨status, ttl, hacc, -, -, hopen, h⟩ | ⟨fault, hacc, hopen, h⟩ | ⟨hopen, h⟩
  · rw [h]
    refine (submit_accounts proper status ttl).congr Iff.rfl ?_ rfl ?_
    · exact iff_of_false id fun hn => hn.2 hacc
    · rw [if_pos hopen, if_pos ⟨hopen, hacc⟩]
  · rw [h, hopen]
    refine (refuse_accounts fault).congr (by simp) (iff_of_true trivial ⟨rfl, hacc⟩) rfl ?_
    exact (if_neg fun hn => hacc hn.2).symm
  · rw [h, hopen]
    exact (misuse_accounts "end").congr (by simp) (by simp) rfl (by simp)

/-- on an open record `appendAll` fails with the fault of a file or not at all, and the record stays open -/
theorem appendAll_opened (services : Services σ) (lines : List String) (handle : Handle) (n : ℕ) (world : σ) :
    (appendAll services ⟨.opened handle, n⟩ world lines).session.state = .opened handle ∧
      ∀ e, (appendAll services ⟨.opened handle, n⟩ world lines).result = .error e → ∃ fault, e = .file fault := by
  induction lines generalizing n world with
  | nil => exact ⟨rfl, fun e he => by cases he⟩
  | cons text lines ih =>
    rcases append_cases services text ⟨.opened handle, n⟩ world with
      ⟨m, handle', hs, -, h⟩ | ⟨m, handle', fault, hs, -, h⟩ | ⟨hs, -⟩
    · cases hs
      rw [appendAll, h]
      exact ih (n + 1) _
    · rw [appendAll, h]
      refine ⟨rfl, fun e he => ?_⟩
      cases he
      exact ⟨fault, rfl⟩
    · cases hs

/-- behind an open call that gave a handle, `run` fails only by errors that forbid nothing -/
theorem run_opened_allowed (proper : services.collector.Proper) (lines : List String) (status : Status) (ttl : Ttl)
    (handle : Handle) (n : ℕ) (world : σ) :
    ¬ ((appendAll services ⟨.opened handle, n⟩ world lines).andThen fun _ session world =>
        (submit services status ttl session world).andThen fun _ session world =>
          (⟨.ok handle, session, world, []⟩ : Outcome σ Handle)).FailsBy Error.isForbidden := by
  rintro ⟨e, he, hk⟩
  obtain ⟨hstate, hfile⟩ := appendAll_opened services lines handle n world
  cases hw : (appendAll services ⟨.opened handle, n⟩ world lines).result with
  | error e' =>
    rw [Outcome.andThen_of_error hw] at he
    obtain ⟨fault, rfl⟩ := hfile e' hw
    cases he
    cases hk
  | ok =>
    rw [Outcome.andThen_of_ok hw] at he
    set session := (appendAll services ⟨.opened handle, n⟩ world lines).session
    set after := (appendAll services ⟨.opened handle, n⟩ world lines).world
    have accounts : Accounts session after (submit services status ttl session after) _ _ _ _ :=
      submit_accounts proper status ttl
    cases hsub : (submit services status ttl session after).result with
    | ok =>
      rw [Outcome.andThen_of_ok hsub] at he
      cases he
    | error e' =>
      rw [Outcome.andThen_of_error hsub] at he
      cases he
      rcases failsBy_forbidden_iff.1 ⟨e, hsub, hk⟩ with hf | hf
      · have misused := accounts.misused_iff.1 hf
        rw [hstate] at misused
        cases misused
      · exact accounts.refused_iff.1 hf

theorem run_untouched (proper : services.collector.Proper) (lines : List String) (token : String) (minutes : ℤ)
    (hf : (run services lines token minutes session world).FailsBy Error.isForbidden) :
    Untouched session world (run services lines token minutes session world) := by
  rcases run_cases services lines token minutes session world with ⟨status, ttl, -, -, -, h⟩ | ⟨fault, -, h⟩
  · rw [h] at hf ⊢
    cases hr : (begin services session world).result with
    | ok handle =>
      rcases begin_cases services session world with ⟨n, handle', rfl, -, hb⟩ | ⟨n, e, -, -, hb⟩ | ⟨-, hb⟩
      · rw [hb] at hf
        exact absurd hf (run_opened_allowed proper lines status ttl handle' n _)
      · rw [hb] at hr
        cases hr
      · rw [hb] at hr
        cases hr
    | error e =>
      rw [Outcome.andThen_of_error hr] at hf ⊢
      obtain ⟨session_eq, world_eq, logged⟩ := (begin_accounts proper).forbidden ⟨e, hr, failsBy_error.1 hf⟩
      exact ⟨session_eq, world_eq, logged⟩
  · rw [h] at hf ⊢
    exact (refuse_accounts fault).forbidden hf

/-! ## Main results -/

/-- **Failures are atomic and calls are counted.** For a collector whose errors are its own, in every session and
world: a failed operation leaves the session as it was; an error of misuse arises exactly in the stages, and an error of
an argument exactly for the arguments, that call for it; each operation makes exactly the calls of the collector that
stage and arguments allow; and an operation that is forbidden touches nothing, `run` included. -/
theorem failures_accounted (services : Services σ) (proper : services.collector.Proper) (session : Session)
    (world : σ) : Accounted services session world where
  told call := perform_leads services call session world
  begin := begin_accounts proper
  append := append_accounts
  submit := submit_accounts proper
  finish := finish_accounts proper
  run := run_untouched proper

/-- the case of a host on which there is no program to run -/
theorem failures_accounted_bare :
    (CommandCollector.ofProgram ⟨[]⟩ []).service.Proper ∧
      Accounted (Host.services (.ofProgram ⟨[]⟩ [])) Session.new Host.bare :=
  ⟨CommandCollector.proper _, failures_accounted (Host.services (.ofProgram ⟨[]⟩ [])) (CommandCollector.proper _)
    Session.new Host.bare⟩

end Session

end CheckReport
