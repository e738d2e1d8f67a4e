/-
Courses of a session.

Every operation of a session leads, by the trace that it leaves, from the session and the world that it got to those
that it gives back. A course is any list of calls that are made of one session, one after another and whatever their
results. The world may be of any kind, so that a collector and a disk may answer each call as they like.

- `Outcome.andThen_assoc`, `Outcome.map_andThen`, `Outcome.andThen_map`: operations one behind the other.
- `begin_cases`, `append_cases`, `submit_cases`, `finish_cases`, `run_cases`: all that an operation can do, said once.
- `begin_leads`, `append_leads`, `submit_leads`, `finish_leads`, `run_leads`: each leads by its trace.
- `course_leads`: so does a whole course.
-/
import CheckReport.Proofs.Session.Trace

namespace CheckReport.Session

variable {σ α β : Type} (services : Services σ)

/-! ## Outcomes one behind the other -/

namespace Outcome

theorem andThen_of_ok {outcome : Outcome σ α} {value : α} (h : outcome.result = .ok value)
    (next : α → Session → σ → Outcome σ β) :
    outcome.andThen next =
      let later := next value outcome.session outcome.world
      ⟨later.result, later.session, later.world, outcome.trace ++ later.trace⟩ := by
  simp only [andThen, h]

theorem andThen_of_error {outcome : Outcome σ α} {e : Error} (h : outcome.result = .error e)
    (next : α → Session → σ → Outcome σ β) :
    outcome.andThen next = ⟨.error e, outcome.session, outcome.world, outcome.trace⟩ := by
  simp only [andThen, h]

theorem andThen_assoc {γ : Type} (outcome : Outcome σ α) (next : α → Session → σ → Outcome σ β)
    (last : β → Session → σ → Outcome σ γ) :
    (outcome.andThen next).andThen last =
      outcome.andThen fun value session world => (next value session world).andThen last := by
  cases h : outcome.result with
  | error e => simp only [andThen, h]
  | ok value =>
    cases h' : (next value outcome.session outcome.world).result with
    | error e => simp only [andThen, h, h']
    | ok value' => simp only [andThen, h, h', List.append_assoc]

/-- the outcome with its value changed -/
def map (f : α → β) (outcome : Outcome σ α) : Outcome σ β :=
  ⟨outcome.result.map f, outcome.session, outcome.world, outcome.trace⟩

/-- to change the value is to go on with nothing but the changed value -/
theorem map_eq_andThen (f : α → β) (outcome : Outcome σ α) :
    outcome.map f = outcome.andThen fun value session world => ⟨.ok (f value), session, world, []⟩ := by
  cases h : outcome.result with
  | error e => simp only [andThen, map, h, Except.map]
  | ok value => simp only [andThen, map, h, Except.map, List.append_nil]

theorem map_map {γ : Type} (g : β → γ) (f : α → β) (outcome : Outcome σ α) :
    (outcome.map f).map g = outcome.map fun value => g (f value) := by
  obtain ⟨result, session, world, trace⟩ := outcome
  cases result <;> rfl

theorem map_same {f : α → α} (h : ∀ value, f value = value) (outcome : Outcome σ α) : outcome.map f = outcome := by
  obtain ⟨result, session, world, trace⟩ := outcome
  cases result with
  | error e => rfl
  | ok value => simp only [map, Except.map, h]

theorem andThen_map {γ : Type} (f : α → β) (outcome : Outcome σ α) (next : β → Session → σ → Outcome σ γ) :
    (outcome.map f).andThen next = outcome.andThen fun value => next (f value) := by
  rw [map_eq_andThen, andThen_assoc]
  rfl

theorem map_andThen {γ : Type} (f : β → γ) (outcome : Outcome σ α) (next : α → Session → σ → Outcome σ β) :
    (outcome.andThen next).map f = outcome.andThen fun value session world => (next value session world).map f := by
  rw [map_eq_andThen, andThen_assoc]
  simp only [← map_eq_andThen]

end Outcome

/-! ## All that an operation can do -/

/-- the session is open -/
def State.isOpen : State → Bool
  | .opened _ => true
  | _ => false

theorem begin_cases (session : Session) (world : σ) :
    (∃ n handle, session = ⟨.fresh, n⟩ ∧ (services.collector.openRecord world).result = .ok handle ∧
      begin services session world =
        ⟨.ok handle, ⟨.opened handle, n⟩, (services.collector.openRecord world).world,
          (services.collector.openRecord world).log.map .logged ++ [.opening (.ok handle)] ++
            [.logged (Log.info s!"Opened check record {handle.text}")]⟩) ∨
    (∃ n e, session = ⟨.fresh, n⟩ ∧ (services.collector.openRecord world).result = .error e ∧
      begin services session world =
        ⟨.error e, session, (services.collector.openRecord world).world,
          (services.collector.openRecord world).log.map .logged ++ [.opening (.error e)] ++
            [.logged (Log.warn s!"Could not open check record: {e.message}")]⟩) ∨
    (session.state ≠ .fresh ∧ begin services session world = misuse "begin" session world) := by
  obtain ⟨state, n⟩ := session
  cases state with
  | fresh =>
    cases hr : (services.collector.openRecord world).result with
    | ok handle => exact Or.inl ⟨n, handle, rfl, rfl, by simp only [begin, hr]⟩
    | error e => exact Or.inr (Or.inl ⟨n, e, rfl, rfl, by simp only [begin, hr]⟩)
  | opened handle => exact Or.inr (Or.inr ⟨State.noConfusion, rfl⟩)
  | closed handle => exact Or.inr (Or.inr ⟨State.noConfusion, rfl⟩)

theorem append_cases (text : String) (session : Session) (world : σ) :
    (∃ n handle, session = ⟨.opened handle, n⟩ ∧ (services.appendLine handle text world).1 = .ok () ∧
      append services text session world =
        ⟨.ok (), ⟨.opened handle, n + 1⟩, (services.appendLine handle text world).2,
          [.appending handle text (.ok ())]⟩) ∨
    (∃ n handle fault, session = ⟨.opened handle, n⟩ ∧ (services.appendLine handle text world).1 = .error fault ∧
      append services text session world =
        ⟨.error (.file fault), session, (services.appendLine handle text world).2,
          [.appending handle text (.error fault)]⟩) ∨
    (session.state.isOpen = false ∧ append services text session world = misuse "append" session world) := by
  obtain ⟨state, n⟩ := session
  cases state with
  | opened handle =>
    rcases hp : services.appendLine handle text world with ⟨result, after⟩
    cases result with
    | ok => exact Or.inl ⟨n, handle, rfl, by rw [hp], by simp only [append, hp]⟩
    | error fault => exact Or.inr (Or.inl ⟨n, handle, fault, rfl, by rw [hp], by simp only [append, hp]⟩)
  | fresh => exact Or.inr (Or.inr ⟨rfl, rfl⟩)
  | closed handle => exact Or.inr (Or.inr ⟨rfl, rfl⟩)

theorem submit_cases (status : Status) (ttl : Ttl) (session : Session) (world : σ) :
    (∃ n handle, session = ⟨.opened handle, n⟩ ∧
      (services.collector.submitRecord handle status ttl world).result = .ok () ∧
      submit services status ttl session world =
        ⟨.ok (), ⟨.closed handle, n⟩, (services.collector.submitRecord handle status ttl world).world,
          statusWarning status ++ (services.collector.submitRecord handle status ttl world).log.map .logged ++
              [.submission handle status ttl (.ok ())] ++
            [.logged (Log.info s!"Submitted check record {handle.text} (status {status.token}, ttl {ttl.text}m)")]⟩) ∨
    (∃ n handle e, session = ⟨.opened handle, n⟩ ∧
      (services.collector.submitRecord handle status ttl world).result = .error e ∧
      submit services status ttl session world =
        ⟨.error e, session, (services.collector.submitRecord handle status ttl world).world,
          statusWarning status ++ (services.collector.submitRecord handle status ttl world).log.map .logged ++
              [.submission handle status ttl (.error e)] ++
            [.logged (Log.error s!"Submit failed, record {handle.text} kept for resubmission: {e.message}")]⟩) ∨
    (session.state.isOpen = false ∧ submit services status ttl session world = misuse "end" session world) := by
  obtain ⟨state, n⟩ := session
  cases state with
  | opened handle =>
    cases hr : (services.collector.submitRecord handle status ttl world).result with
    | ok => exact Or.inl ⟨n, handle, rfl, hr, by simp only [submit, hr]⟩
    | error e => exact Or.inr (Or.inl ⟨n, handle, e, rfl, hr, by simp only [submit, hr]⟩)
  | fresh => exact Or.inr (Or.inr ⟨rfl, rfl⟩)
  | closed handle => exact Or.inr (Or.inr ⟨rfl, rfl⟩)

/-- what comes of handing in an open record is what comes of the call; only a success moves the session -/
theorem submit_opened (status : Status) (ttl : Ttl) (handle : Handle) (n : ℕ) (world : σ) :
    let reply := services.collector.submitRecord handle status ttl world
    let outcome := submit services status ttl ⟨.opened handle, n⟩ world
    outcome.result = reply.result ∧ outcome.world = reply.world ∧ outcome.session.appended = n ∧
      (outcome.result ≠ .ok () → outcome.session = ⟨.opened handle, n⟩) := by
  intro reply outcome
  rcases submit_cases services status ttl ⟨.opened handle, n⟩ world with
    ⟨n', handle', same, hr, h⟩ | ⟨n', handle', e, same, hr, h⟩ | ⟨closed, -⟩
  · cases same
    refine ⟨?_, congrArg Outcome.world h, congrArg (·.session.appended) h, fun failed => absurd ?_ failed⟩
    · exact (congrArg Outcome.result h).trans hr.symm
    · exact congrArg Outcome.result h
  · cases same
    refine ⟨?_, congrArg Outcome.world h, congrArg (·.session.appended) h, fun _ => congrArg Outcome.session h⟩
    exact (congrArg Outcome.result h).trans hr.symm
  · cases closed

/-- a status and a number of minutes that a submission may have -/
def Acceptable (token : String) (minutes : ℤ) : Prop :=
  Text.isBlankText token = false ∧ 0 ≤ minutes ∧ minutes ≤ 2147483647

instance (token : String) (minutes : ℤ) : Decidable (Acceptable token minutes) := by
  unfold Acceptable
  infer_instance

/-- both arguments are read, or the first that is not acceptable is refused -/
theorem arguments_cases (token : String) (minutes : ℤ) :
    (∃ status ttl, Acceptable token minutes ∧ Status.parse token = .ok status ∧ Ttl.ofMinutes minutes = .ok ttl) ∨
    (∃ fault, ¬ Acceptable token minutes ∧ Status.parse token = .error fault) ∨
    (∃ status fault, ¬ Acceptable token minutes ∧ Status.parse token = .ok status ∧
      Ttl.ofMinutes minutes = .error fault) := by
  cases hs : Status.parse token with
  | error fault =>
    refine Or.inr (Or.inl ⟨fault, fun h => ?_, rfl⟩)
    have := Status.blank_of_parse_error hs
    rw [h.1] at this
    cases this
  | ok status =>
    cases ht : Ttl.ofMinutes minutes with
    | error fault =>
      refine Or.inr (Or.inr ⟨status, fault, fun h => ?_, rfl, rfl⟩)
      obtain ⟨-, hlow, hhigh⟩ := h
      have := Ttl.outside_of_ofMinutes_error ht
      simp only [maxTtl] at this
      omega
    | ok ttl =>
      refine Or.inl ⟨status, ttl, ⟨?_, ?_, ?_⟩, rfl, rfl⟩
      · rw [← (Status.parse_eq_ok_iff token status).1 hs]
        exact status.not_blank
      · rw [← (Ttl.ofMinutes_eq_ok_iff minutes ttl).1 ht]
        exact Int.natCast_nonneg _
      · rw [← (Ttl.ofMinutes_eq_ok_iff minutes ttl).1 ht]
        exact_mod_cast ttl.le_max

theorem finish_cases (token : String) (minutes : ℤ) (session : Session) (world : σ) :
    (∃ status ttl, Acceptable token minutes ∧ Status.parse token = .ok status ∧ Ttl.ofMinutes minutes = .ok ttl ∧
      session.state.isOpen = true ∧
      finish services token minutes session world = submit services status ttl session world) ∨
    (∃ fault, ¬ Acceptable token minutes ∧ session.state.isOpen = true ∧
      finish services token minutes session world = refuse fault session world) ∨
    (session.state.isOpen = false ∧ finish services token minutes session world = misuse "end" session world) := by
  obtain ⟨state, n⟩ := session
  cases state with
  | opened handle =>
    rcases arguments_cases token minutes with ⟨status, ttl, h, hs, ht⟩ | ⟨fault, h, hs⟩ | ⟨status, fault, h, hs, ht⟩
    · exact Or.inl ⟨status, ttl, h, hs, ht, rfl, by simp only [finish, hs, ht]⟩
    · exact Or.inr (Or.inl ⟨fault, h, rfl, by simp only [finish, hs]⟩)
    · exact Or.inr (Or.inl ⟨fault, h, rfl, by simp only [finish, hs, ht]⟩)
  | fresh => exact Or.inr (Or.inr ⟨rfl, rfl⟩)
  | closed handle => exact Or.inr (Or.inr ⟨rfl, rfl⟩)

theorem run_cases (lines : List String) (token : String) (minutes : ℤ) (session : Session) (world : σ) :
    (∃ status ttl, Acceptable token minutes ∧ Status.parse token = .ok status ∧ Ttl.ofMinutes minutes = .ok ttl ∧
      run services lines token minutes session world =
        (begin services session world).andThen fun handle session world =>
          (appendAll services session world lines).andThen fun _ session world =>
            (submit services status ttl session world).andThen fun _ session world =>
              ⟨.ok handle, session, world, []⟩) ∨
    (∃ fault, ¬ Acceptable token minutes ∧
      run services lines token minutes session world = refuse fault session world) := by
  rcases arguments_cases token minutes with ⟨status, ttl, h, hs, ht⟩ | ⟨fault, h, hs⟩ | ⟨status, fault, h, hs, ht⟩
  · exact Or.inl ⟨status, ttl, h, hs, ht, by simp only [run, hs, ht]⟩
  · exact Or.inr ⟨fault, h, by simp only [run, hs]⟩
  · exact Or.inr ⟨fault, h, by simp only [run, hs, ht]⟩

/-! ## Every operation leads by its trace -/

/-- an outcome whose trace leads from a session in a world to the session and the world of the outcome -/
abbrev Outcome.LeadsFrom (session : Session) (world : σ) (outcome : Outcome σ α) : Prop :=
  Leads services session world outcome.trace outcome.session outcome.world

variable {services}

theorem Outcome.LeadsFrom.andThen {session : Session} {world : σ} {outcome : Outcome σ α}
    {next : α → Session → σ → Outcome σ β} (h : outcome.LeadsFrom services session world)
    (hnext : ∀ value, (next value outcome.session outcome.world).LeadsFrom services outcome.session outcome.world) :
    (outcome.andThen next).LeadsFrom services session world := by
  obtain ⟨result, session', world', trace⟩ := outcome
  cases result with
  | error e => exact h
  | ok value => exact h.trans (hnext value)

variable (services)

theorem misuse_leads (operation : String) (session : Session) (world : σ) :
    (misuse operation session world : Outcome σ α).LeadsFrom services session world :=
  Leads.logs [_]

theorem refuse_leads (fault : ArgumentFault) (session : Session) (world : σ) :
    (refuse fault session world : Outcome σ α).LeadsFrom services session world :=
  Leads.refl

theorem begin_leads (session : Session) (world : σ) :
    (begin services session world).LeadsFrom services session world := by
  rcases begin_cases services session world with ⟨n, handle, rfl, hr, h⟩ | ⟨n, e, rfl, hr, h⟩ | ⟨-, h⟩
  · rw [Outcome.LeadsFrom, h]
    exact Leads.between ⟨.fresh, n⟩ (logged_of_map _) (.opening (.ok handle)) rfl hr _
  · rw [Outcome.LeadsFrom, h]
    exact Leads.between ⟨.fresh, n⟩ (logged_of_map _) (.opening (.error e)) rfl hr _
  · rw [h]
    exact misuse_leads services _ _ _

theorem append_leads (text : String) (session : Session) (world : σ) :
    (append services text session world).LeadsFrom services session world := by
  rcases append_cases services text session world with
    ⟨n, handle, rfl, hr, h⟩ | ⟨n, handle, fault, rfl, hr, h⟩ | ⟨-, h⟩
  · rw [Outcome.LeadsFrom, h]
    exact Leads.single (.appending handle text (.ok ())) rfl hr
  · rw [Outcome.LeadsFrom, h]
    exact Leads.single (.appending handle text (.error fault)) rfl hr
  · rw [h]
    exact misuse_leads services _ _ _

/-- what stands in front of a submit call is only logged -/
theorem warned_logged (status : Status) (entries : List Log.Entry) :
    ∀ event ∈ statusWarning status ++ entries.map Event.logged, event.isLogged = true := by
  intro event he
  rcases List.mem_append.1 he with he | he
  · unfold statusWarning at he
    split at he
    · cases he
    · rw [List.mem_singleton.1 he]
      rfl
  · exact logged_of_map entries event he

theorem submit_leads (status : Status) (ttl : Ttl) (session : Session) (world : σ) :
    (submit services status ttl session world).LeadsFrom services session world := by
  rcases submit_cases services status ttl session world with
    ⟨n, handle, rfl, hr, h⟩ | ⟨n, handle, e, rfl, hr, h⟩ | ⟨-, h⟩
  · rw [Outcome.LeadsFrom, h]
    exact Leads.between ⟨.opened handle, n⟩ (warned_logged status _) (.submission handle status ttl (.ok ())) rfl hr _
  · rw [Outcome.LeadsFrom, h]
    exact Leads.between ⟨.opened handle, n⟩ (warned_logged status _) (.submission handle status ttl (.error e)) rfl hr _
  · rw [h]
    exact misuse_leads services _ _ _

theorem finish_leads (token : String) (minutes : ℤ) (session : Session) (world : σ) :
    (finish services token minutes session world).LeadsFrom services session world := by
  rcases finish_cases services token minutes session world with
    ⟨status, ttl, -, -, -, -, h⟩ | ⟨fault, -, -, h⟩ | ⟨-, h⟩
  · rw [h]
    exact submit_leads services status ttl session world
  · rw [h]
    exact refuse_leads services fault session world
  · rw [h]
    exact misuse_leads services _ _ _

theorem appendAll_leads (lines : List String) (session : Session) (world : σ) :
    (appendAll services session world lines).LeadsFrom services session world := by
  induction lines generalizing session world with
  | nil => exact Leads.refl
  | cons text lines ih => exact (append_leads services text session world).andThen fun _ => ih _ _

theorem run_leads (lines : List String) (token : String) (minutes : ℤ) (session : Session) (world : σ) :
    (run services lines token minutes session world).LeadsFrom services session world := by
  rcases run_cases services lines token minutes session world with ⟨status, ttl, -, -, -, h⟩ | ⟨fault, -, h⟩
  · rw [h]
    refine (begin_leads services session world).andThen fun handle => ?_
    refine (appendAll_leads services lines _ _).andThen fun _ => ?_
    exact (submit_leads services status ttl _ _).andThen fun _ => Leads.refl
  · rw [h]
    exact refuse_leads services fault session world

/-! ## Courses -/

/-- one call of an operation -/
inductive Call where
  | begin
  | append (text : String)
  | finish (token : String) (minutes : ℤ)
  | submit (status : Status) (ttl : Ttl)
  | run (lines : List String) (token : String) (minutes : ℤ)
  deriving DecidableEq

/-- what a call gives back: the handle, if the operation gives one -/
def perform : Call → Session → σ → Outcome σ (Option Handle)
  | .begin, session, world => (begin services session world).map some
  | .append text, session, world => (append services text session world).map fun _ => none
  | .finish token minutes, session, world => (finish services token minutes session world).map fun _ => none
  | .submit status ttl, session, world => (submit services status ttl session world).map fun _ => none
  | .run lines token minutes, session, world => (run services lines token minutes session world).map some

theorem perform_leads (call : Call) (session : Session) (world : σ) :
    (perform services call session world).LeadsFrom services session world := by
  cases call with
  | begin => exact begin_leads services session world
  | append text => exact append_leads services text session world
  | finish token minutes => exact finish_leads services token minutes session world
  | submit status ttl => exact submit_leads services status ttl session world
  | run lines token minutes => exact run_leads services lines token minutes session world

/-- how far some calls have brought a session -/
structure Course (σ : Type) where
  session : Session
  world : σ
  trace : List Event

/-- make calls one after another; a call that fails does not end the course -/
def course : List Call → Session → σ → Course σ
  | [], session, world => ⟨session, world, []⟩
  | call :: calls, session, world =>
    let outcome := perform services call session world
    let later := course calls outcome.session outcome.world
    ⟨later.session, later.world, outcome.trace ++ later.trace⟩

theorem course_leads (calls : List Call) (session : Session) (world : σ) :
    Leads services session world (course services calls session world).trace
      (course services calls session world).session (course services calls session world).world := by
  induction calls generalizing session world with
  | nil => exact Leads.refl
  | cons call calls ih => exact (perform_leads services call session world).trans (ih _ _)

theorem trace_course_append (first later : List Call) (session : Session) (world : σ) :
    (course services (first ++ later) session world).trace =
      (course services first session world).trace ++
        (course services later (course services first session world).session
          (course services first session world).world).trace := by
  induction first generalizing session world with
  | nil => rfl
  | cons call first ih => simp only [List.cons_append, course, ih, List.append_assoc]

end CheckReport.Session
