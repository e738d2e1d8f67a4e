/-
Which session handed which record in.

At a desk one number may stand for several sessions, one after another: `new` and `resume` put another session in the
place of the one before. A session is thus named by its number and by how many were made under that number up to it
(`Closed`).

- `closed?_balance`: a session is closed by the one submission of its handle that is accepted.
- `turn_balance`: a turn hands in what closes the session that it calls, and leaves the others alone.
- `closings`: every session that is closed has handed in its own handle, and if handles are accepted once only, no two
  sessions have handed in the same one.
-/
import CheckReport.Proofs.Session.Lifecycle
import CheckReport.Proofs.Session.Turns

namespace CheckReport

open Session (Event Services State)

namespace Session

/-- the handle of a submission that was accepted -/
def Event.accepted? : Event → Option Handle
  | .submission handle _ _ (.ok ()) => some handle
  | _ => none

theorem Event.accepted?_of_not_hasSubmitted {event : Event} (h : event.hasSubmitted = false) :
    event.accepted? = none := by
  cases event with
  | submission handle status ttl result =>
    cases result with
    | ok => cases h
    | error e => rfl
  | _ => rfl

/-- the handle that a closed session has handed in -/
def State.closed? : State → Option Handle
  | .closed handle => some handle
  | _ => none

/-- **A session hands in as often as it is closed**, which is once at most. -/
theorem State.closed?_balance {state : State} {trace : List Event} (allowed : state.AllowsAll trace) :
    state.closed?.toList ++ trace.filterMap Event.accepted? = (trace.foldl State.after state).closed?.toList := by
  induction trace generalizing state with
  | nil => exact List.append_nil _
  | cons event trace ih =>
    obtain ⟨head, tail⟩ := allowed
    rw [List.foldl_cons, ← ih tail]
    rcases after_cases head with ⟨same, -, hev⟩ | ⟨handle, rfl, rfl⟩ | ⟨handle, status, ttl, rfl, rfl⟩
    · rw [same, List.filterMap_cons_none (Event.accepted?_of_not_hasSubmitted hev)]
    · rfl
    · rfl

end Session

variable {σ δ : Type}

/-- the handle that is accepted when something happens -/
def Happening.accepted? : Happening δ → Option Handle
  | .event e => e.accepted?
  | .change _ => none

namespace Desk

namespace Turn

/-- the number under which a turn makes a session -/
def made? : Turn δ → Option ℕ
  | .move m => m.made?
  | .change _ => none

/-- the number of the session of which a turn makes a call -/
def caller? : Turn δ → Option ℕ
  | .move m => m.caller?
  | .change _ => none

/-- a submit call of the collector that no session makes -/
def isDirect : Turn δ → Bool
  | .move (.submitRecord _ _ _) => true
  | _ => false

end Turn

variable (services : Services σ) (change : δ → σ → σ)

/-- the handles that are accepted in a turn -/
def acceptedIn (desk : Desk σ) (turn : Turn δ) : List Handle :=
  (desk.turn services change turn).2.filterMap Happening.accepted?

/-- the handles that are accepted in some turns, first one first -/
def accepted (desk : Desk σ) (turns : List (Turn δ)) : List Handle :=
  (desk.turns services change turns).2.filterMap Happening.accepted?

theorem turns_concat (desk : Desk σ) (turns : List (Turn δ)) (last : Turn δ) :
    (desk.turns services change (turns ++ [last])).1 =
        ((desk.turns services change turns).1.turn services change last).1 ∧
      accepted services change desk (turns ++ [last]) =
        accepted services change desk turns ++ acceptedIn services change (desk.turns services change turns).1 last := by
  induction turns generalizing desk with
  | nil => simp [Desk.turns, accepted, acceptedIn]
  | cons first turns ih =>
    obtain ⟨reached, handles⟩ := ih (desk.turn services change first).1
    refine ⟨reached, ?_⟩
    simp only [accepted, List.cons_append, Desk.turns, List.filterMap_append] at handles ⊢
    rw [handles, List.append_assoc]

/-! ## One turn -/

/-- a session that was just made is not closed -/
theorem not_closed_of_made (desk : Desk σ) {turn : Turn δ} {i : ℕ} (h : turn.made? = some i) :
    ((desk.turn services change turn).1.sessions i).state.closed? = none := by
  cases turn with
  | change what => cases h
  | move move =>
    cases move with
    | new j =>
      cases h
      simp [Desk.turn, Desk.step, setSession, Session.new, State.closed?]
    | resume j handle =>
      cases h
      simp [Desk.turn, Desk.step, setSession, Session.resume, State.closed?]
    | _ => cases h

/-- a turn hands in what closes the session that it calls, and does nothing to the others that it does not make -/
theorem turn_balance (desk : Desk σ) {turn : Turn δ} {i : ℕ} (made : turn.made? ≠ some i) :
    (desk.sessions i).state.closed?.toList ++
        (if turn.caller? = some i then acceptedIn services change desk turn else []) =
      ((desk.turn services change turn).1.sessions i).state.closed?.toList := by
  cases turn with
  | change what => exact List.append_nil _
  | move move =>
    change (desk.sessions i).state.closed?.toList ++ (if move.caller? = some i then _ else []) =
      ((desk.step services move).2.1.sessions i).state.closed?.toList
    rcases step_cases services desk move with
      ⟨j, session, hmade, -, hstep⟩ | ⟨j, call, rfl⟩ | ⟨_, _, _, -, hcaller, -, hstep⟩
    · have caller : move.caller? = none := by
        cases move with
        | new => rfl
        | resume => rfl
        | _ => cases hmade
      have fresh : i ≠ j := fun hj => made (hmade.trans (congrArg some hj.symm))
      rw [hstep, caller, if_neg (by simp), List.append_nil]
      simp only [setSession, if_neg fresh]
    · rw [Move.caller?_ofCall]
      by_cases hj : j = i
      · subst hj
        have leads := Session.perform_leads services call (desk.sessions j) desk.world
        have trace : acceptedIn services change desk (.move (.ofCall j call) : Turn δ) =
            (Session.perform services call (desk.sessions j) desk.world).trace.filterMap Event.accepted? := by
          rw [acceptedIn, Desk.turn, step_ofCall]
          exact List.filterMap_map ..
        rw [if_pos rfl, trace, step_ofCall]
        simp only [setSession, if_true]
        rw [← leads.session_eq, Session.replay_state]
        exact State.closed?_balance leads.allowed
      · rw [if_neg fun h => hj (Option.some.inj h), List.append_nil, step_ofCall]
        simp only [setSession, if_neg (Ne.symm hj)]
    · rw [hstep, hcaller, if_neg (by simp), List.append_nil]

/-- what stands for a session behind a turn that did not make it -/
theorem closed_behind (desk : Desk σ) (turns : List (Turn δ)) {last : Turn δ} {i : ℕ} (made : last.made? ≠ some i) :
    ((desk.turns services change turns).1.sessions i).state.closed?.toList ++
        (if last.caller? = some i then acceptedIn services change (desk.turns services change turns).1 last else []) =
      ((desk.turns services change (turns ++ [last])).1.sessions i).state.closed?.toList := by
  rw [(turns_concat services change desk turns last).1]
  exact turn_balance services change _ made

/-- what is accepted without a session is accepted for a direct call -/
theorem direct_of_accepted (desk : Desk σ) {turn : Turn δ} (caller : turn.caller? = none) {handle : Handle}
    (h : handle ∈ acceptedIn services change desk turn) : turn.isDirect = true := by
  cases turn with
  | change what => cases h
  | move move =>
    cases move with
    | submitRecord => rfl
    | openRecord =>
      obtain ⟨happening, hm, hh⟩ := List.mem_filterMap.1 h
      obtain ⟨event, he, rfl⟩ := List.mem_map.1 hm
      rcases List.mem_append.1 he with he | he
      · obtain ⟨entry, -, rfl⟩ := List.mem_map.1 he
        cases hh
      · rw [List.mem_singleton.1 he] at hh
        cases hh
    | new => cases h
    | resume => cases h
    | _ => cases caller

/-! ## Sessions with a name -/

/-- in the course of some turns, the `k`-th session made under the number `i` has been closed with a handle; the one that
was there from the start is the one with `k = 0` -/
def Closed (desk : Desk σ) (turns : List (Turn δ)) (i k : ℕ) (handle : Handle) : Prop :=
  ∃ first, first <+: turns ∧ first.countP (fun turn => turn.made? = some i) = k ∧
    ((desk.turns services change first).1.sessions i).state.closed? = some handle

variable {services change} {desk : Desk σ} {turns : List (Turn δ)} {i j k : ℕ} {handle : Handle}

theorem closed_concat {last : Turn δ} : Closed services change desk (turns ++ [last]) i k handle ↔
    Closed services change desk turns i k handle ∨
      (turns ++ [last]).countP (fun turn => turn.made? = some i) = k ∧
        ((desk.turns services change (turns ++ [last])).1.sessions i).state.closed? = some handle := by
  constructor
  · rintro ⟨first, hp, hk, hs⟩
    rcases List.prefix_concat_iff.1 hp with rfl | hp
    · exact Or.inr ⟨hk, hs⟩
    · exact Or.inl ⟨first, hp, hk, hs⟩
  · rintro (⟨first, hp, hk, hs⟩ | ⟨hk, hs⟩)
    · exact ⟨first, hp.trans (List.prefix_append _ _), hk, hs⟩
    · exact ⟨_, List.prefix_rfl, hk, hs⟩

theorem le_of_closed (h : Closed services change desk turns i k handle) :
    k ≤ turns.countP (fun turn => turn.made? = some i) := by
  obtain ⟨first, hp, rfl, -⟩ := h
  exact hp.sublist.countP_le

/-- a list with at most one element is as long as it was, or its one element is new -/
theorem toList_append_cases {before after : Option Handle} {more : List Handle}
    (h : before.toList ++ more = after.toList) :
    (before = after ∧ more = []) ∨ (before = none ∧ ∃ handle, after = some handle ∧ more = [handle]) := by
  cases before with
  | none =>
    cases after with
    | none => exact Or.inl ⟨rfl, h⟩
    | some handle => exact Or.inr ⟨rfl, handle, rfl, h⟩
  | some earlier =>
    cases after with
    | none => cases h
    | some handle =>
      obtain ⟨rfl, rfl⟩ := List.cons.inj h
      exact Or.inl ⟨rfl, rfl⟩

theorem made?_of_caller? {turn : Turn δ} (h : turn.caller? = some i) : turn.made? ≠ some j := by
  intro made
  cases turn with
  | change what => cases h
  | move move =>
    cases move with
    | new => cases h
    | resume => cases h
    | _ => cases made

theorem countP_concat_of_not_made {last : Turn δ} (h : last.made? ≠ some i) :
    (turns ++ [last]).countP (fun turn => turn.made? = some i) = turns.countP fun turn => turn.made? = some i := by
  rw [List.countP_append, List.countP_singleton, if_neg (by simpa using h), Nat.add_zero]

/-- a session that is closed behind a turn was closed before, or the turn called it and its handle was accepted -/
theorem closed_cases {last : Turn δ} (h : Closed services change desk (turns ++ [last]) i k handle) :
    Closed services change desk turns i k handle ∨
      last.caller? = some i ∧ turns.countP (fun turn => turn.made? = some i) = k ∧
        ((desk.turns services change turns).1.sessions i).state.closed? = none ∧
        acceptedIn services change (desk.turns services change turns).1 last = [handle] := by
  rcases closed_concat.1 h with h | ⟨hk, hs⟩
  · exact Or.inl h
  have made : last.made? ≠ some i := by
    intro made
    rw [(turns_concat services change desk turns last).1, not_closed_of_made services change _ made] at hs
    cases hs
  rw [countP_concat_of_not_made made] at hk
  have behind := closed_behind services change desk turns made
  rw [hs] at behind
  rcases toList_append_cases behind with ⟨same, -⟩ | ⟨none, new, hnew, more⟩
  · exact Or.inl ⟨turns, List.prefix_rfl, hk, same⟩
  · cases hnew
    split at more
    · rename_i caller
      exact Or.inr ⟨caller, hk, none, more⟩
    · cases more

/-- the session that is there now has been closed only if it is closed -/
theorem closed_now (h : Closed services change desk turns i (turns.countP fun turn => turn.made? = some i) handle) :
    ((desk.turns services change turns).1.sessions i).state.closed? = some handle := by
  induction turns using List.reverseRecOn with
  | nil =>
    obtain ⟨first, hp, -, hs⟩ := h
    rw [List.prefix_nil] at hp
    rw [← hp]
    exact hs
  | append_singleton turns last ih =>
    rcases closed_concat.1 h with h | ⟨-, hs⟩
    · have made : last.made? ≠ some i := by
        intro made
        have bound := le_of_closed h
        rw [List.countP_append, List.countP_singleton, if_pos (by simpa using made)] at bound
        omega
      rw [countP_concat_of_not_made made] at h
      have behind := closed_behind services change desk turns made
      rw [ih h] at behind
      rcases toList_append_cases behind with ⟨same, -⟩ | ⟨none, -⟩
      · exact same.symm
      · cases none
    · exact hs

/-- a session that is open has not been closed -/
theorem not_closed_of_open (h : ((desk.turns services change turns).1.sessions i).state.closed? = none) :
    ¬ Closed services change desk turns i (turns.countP fun turn => turn.made? = some i) handle := by
  intro closed
  rw [closed_now closed] at h
  cases h

/-! ## Whole lists of turns -/

/-- what ties closed sessions to the handles that were accepted -/
structure Closings (services : Services σ) (change : δ → σ → σ) (desk : Desk σ) (turns : List (Turn δ)) : Prop where
  /-- the handle of a closed session was accepted -/
  taken : ∀ i k handle, Closed services change desk turns i k handle → handle ∈ accepted services change desk turns
  /-- a session is closed with one handle -/
  one_handle : ∀ i k handle other, Closed services change desk turns i k handle →
    Closed services change desk turns i k other → handle = other
  /-- if no handle was accepted twice, two sessions are closed with two handles -/
  one_session : (accepted services change desk turns).Nodup → ∀ i k j l handle,
    Closed services change desk turns i k handle → Closed services change desk turns j l handle → i = j ∧ k = l
  /-- if sessions alone hand in, each handle that was accepted closed one -/
  covered : (∀ turn ∈ turns, turn.isDirect = false) → ∀ handle ∈ accepted services change desk turns,
    ∃ i k, Closed services change desk turns i k handle

theorem closings_nil (start : ∀ i, (desk.sessions i).state.closed? = none) :
    Closings services change desk ([] : List (Turn δ)) := by
  have none : ∀ i k handle, ¬ Closed services change desk ([] : List (Turn δ)) i k handle := by
    rintro i k handle ⟨first, hp, -, hs⟩
    rw [List.prefix_nil] at hp
    subst hp
    exact absurd ((start i).symm.trans hs) (by simp)
  exact ⟨fun i k handle h => (none i k handle h).elim, fun i k handle _ h => (none i k handle h).elim,
    fun _ i k _ _ handle h => (none i k handle h).elim, fun _ handle h => (List.not_mem_nil h).elim⟩

theorem closings_concat {last : Turn δ} (before : Closings services change desk turns) :
    Closings services change desk (turns ++ [last]) := by
  obtain ⟨-, handles⟩ := turns_concat services change desk turns last
  refine { taken := ?taken, one_handle := ?one_handle, one_session := ?one_session, covered := ?covered }
  case taken =>
    intro i k handle h
    rw [handles, List.mem_append]
    rcases closed_cases h with h | ⟨-, -, -, more⟩
    · exact Or.inl (before.taken i k handle h)
    · exact Or.inr (by simp [more])
  case one_handle =>
    intro i k handle other h h'
    -- a session that was closed before the turn is not closed by it
    rcases closed_cases h with h | ⟨-, hk, open', more⟩
    · rcases closed_cases h' with h' | ⟨-, hk, open', -⟩
      · exact before.one_handle i k handle other h h'
      · subst hk
        exact absurd h (not_closed_of_open open')
    · rcases closed_cases h' with h' | ⟨-, -, -, more'⟩
      · subst hk
        exact absurd h' (not_closed_of_open open')
      · rw [more] at more'
        exact (List.cons.inj more').1
  case one_session =>
    intro once i k j l handle h h'
    rw [handles, List.nodup_append] at once
    obtain ⟨once, -, apart⟩ := once
    rcases closed_cases h with h | ⟨caller, hk, -, more⟩
    · rcases closed_cases h' with h' | ⟨-, -, -, more⟩
      · exact before.one_session once i k j l handle h h'
      · exact absurd rfl (apart handle (before.taken i k handle h) handle (by simp [more]))
    · rcases closed_cases h' with h' | ⟨caller', hl, -, -⟩
      · exact absurd rfl (apart handle (before.taken j l handle h') handle (by simp [more]))
      · rw [caller] at caller'
        cases caller'
        exact ⟨rfl, hk.symm.trans hl⟩
  case covered =>
    intro sessions handle hm
    rw [handles, List.mem_append] at hm
    rcases hm with hm | hm
    · obtain ⟨i, k, h⟩ := before.covered (fun turn ht => sessions turn (List.mem_append_left _ ht)) handle hm
      exact ⟨i, k, closed_concat.2 (Or.inl h)⟩
    · cases caller : last.caller? with
      | none =>
        have direct := direct_of_accepted services change _ caller hm
        rw [sessions last (List.mem_append_right _ (List.mem_singleton_self _))] at direct
        cases direct
      | some i =>
        have behind := closed_behind services change desk turns (made?_of_caller? (j := i) caller)
        rw [if_pos caller] at behind
        have closed : ((desk.turns services change (turns ++ [last])).1.sessions i).state.closed? = some handle := by
          rw [← Option.mem_toList, ← behind]
          exact List.mem_append_right _ hm
        exact ⟨i, _, closed_concat.2 (Or.inr ⟨rfl, closed⟩)⟩

variable (services change desk)

/-- **Closed sessions and accepted handles belong together**, whatever the collector accepts. -/
theorem closings (start : ∀ i, (desk.sessions i).state.closed? = none) (turns : List (Turn δ)) :
    Closings services change desk turns := by
  induction turns using List.reverseRecOn with
  | nil => exact closings_nil start
  | append_singleton turns last ih => exact closings_concat ih

end Desk

end CheckReport
