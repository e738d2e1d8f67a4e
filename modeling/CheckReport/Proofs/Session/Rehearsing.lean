/-
Sessions that rehearse with one collector.

A collector to rehearse with is shared by many sessions and called directly as well, and its script of handles and
failures is extended at any time. It takes each handle once and writes every call down.

- `Rehearsal.after_within`: what becomes of the collector can be told from it alone, wherever it is shared.
- `Rehearsal.books`: behind any timeline the records taken are the handles accepted, each once, and the calls are those
  made.
- `Bench.rehearsing`: a bench is a place where sessions rehearse.
- `Desk.rehearsal_takes_once`: each handle is accepted at most once, closed sessions have different handles, and the
  calls are all written down.
-/
import CheckReport.Proofs.Session.Closings
import CheckReport.Session.Places

namespace CheckReport

open Session (Event Services)

namespace Rehearsal

/-! ## Scripts and calls -/

/-- what is added to the script of a rehearsal -/
inductive Cue where
  | handle (text : String)
  | openFailure (failure : Failure)
  | submitFailure (failure : Failure)

def cued (r : Rehearsal) : Cue → Rehearsal
  | .handle text => r.queueHandle text
  | .openFailure failure => r.queueOpenFailure failure
  | .submitFailure failure => r.queueSubmitFailure failure

/-- the call of the collector that an event tells of -/
def call? : Event → Option Call
  | .opening _ => some .opening
  | .submission handle status ttl _ => some (.submission handle status ttl)
  | _ => none

/-- all that an open call can do: a failure of the script meets it, or it gives out the handle that waits first, or it
names the record itself -/
theorem openRecord_by_script (r : Rehearsal) :
    (∃ failure later, r.openFailures = failure :: later ∧ r.openRecord =
      (.error (failure.error .begin), { r with calls := r.calls ++ [.opening], openFailures := later })) ∨
    (∃ text later, r.openFailures = [] ∧ r.handles = text :: later ∧ r.openRecord =
      (parsed text, { r with calls := r.calls ++ [.opening], opened := r.opened + 1, handles := later })) ∨
    (r.openFailures = [] ∧ r.handles = [] ∧ r.openRecord =
      (parsed (numbered (r.opened + 1)), { r with calls := r.calls ++ [.opening], opened := r.opened + 1 })) := by
  cases hf : r.openFailures with
  | cons failure later => exact Or.inl ⟨failure, later, rfl, by simp only [openRecord, hf]⟩
  | nil =>
    cases hh : r.handles with
    | cons text later => exact Or.inr (Or.inl ⟨text, later, rfl, rfl, by simp only [openRecord, hf, hh]⟩)
    | nil => exact Or.inr (Or.inr ⟨rfl, rfl, by simp only [openRecord, hf, hh]⟩)

/-- all that a submit call can do: a failure of the script meets it, or the record was taken before, or it is taken -/
theorem submitRecord_by_script (r : Rehearsal) (handle : Handle) (status : Status) (ttl : Ttl) :
    (∃ failure later, r.submitFailures = failure :: later ∧ r.submitRecord handle status ttl =
      (.error (failure.error .finish),
        { r with calls := r.calls ++ [.submission handle status ttl], submitFailures := later })) ∨
    (r.submitFailures = [] ∧ handle ∈ r.submitted ∧ r.submitRecord handle status ttl =
      (.error (.rejected .finish (some 1) s!"record already submitted: {handle.text}"),
        { r with calls := r.calls ++ [.submission handle status ttl] })) ∨
    (r.submitFailures = [] ∧ handle ∉ r.submitted ∧ r.submitRecord handle status ttl =
      (.ok (), { r with
        calls := r.calls ++ [.submission handle status ttl], submitted := r.submitted ++ [handle] })) := by
  cases hf : r.submitFailures with
  | cons failure later => exact Or.inl ⟨failure, later, rfl, by simp only [submitRecord, hf]⟩
  | nil =>
    by_cases taken : handle ∈ r.submitted
    · exact Or.inr (Or.inl ⟨rfl, taken, by simp only [submitRecord, hf, if_pos taken]⟩)
    · exact Or.inr (Or.inr ⟨rfl, taken, by simp only [submitRecord, hf, if_neg taken]⟩)

theorem openRecord_kept (r : Rehearsal) :
    r.openRecord.2.calls = r.calls ++ [.opening] ∧ r.openRecord.2.submitted = r.submitted := by
  rcases r.openRecord_by_script with ⟨_, _, -, h⟩ | ⟨_, _, -, -, h⟩ | ⟨-, -, h⟩
  · rw [h]
    exact ⟨rfl, rfl⟩
  · rw [h]
    exact ⟨rfl, rfl⟩
  · rw [h]
    exact ⟨rfl, rfl⟩

/-- a handle is taken if it was not taken before and no failure stands in the script; otherwise nothing is taken -/
theorem submitRecord_cases (r : Rehearsal) (handle : Handle) (status : Status) (ttl : Ttl) :
    (r.submitRecord handle status ttl).2.calls = r.calls ++ [.submission handle status ttl] ∧
      ((handle ∉ r.submitted ∧ (r.submitRecord handle status ttl).1 = .ok () ∧
          (r.submitRecord handle status ttl).2.submitted = r.submitted ++ [handle]) ∨
        (∃ e, (r.submitRecord handle status ttl).1 = .error e ∧
          (r.submitRecord handle status ttl).2.submitted = r.submitted)) := by
  rcases r.submitRecord_by_script handle status ttl with ⟨_, _, -, h⟩ | ⟨-, -, h⟩ | ⟨-, fresh, h⟩
  · rw [h]
    exact ⟨rfl, Or.inr ⟨_, rfl, rfl⟩⟩
  · rw [h]
    exact ⟨rfl, Or.inr ⟨_, rfl, rfl⟩⟩
  · rw [h]
    exact ⟨rfl, Or.inl ⟨fresh, rfl, rfl⟩⟩

end Rehearsal

/-! ## What is assumed of the place -/

variable {σ : Type}

/-- the collector of the services is a rehearsal that is one part of the world, and adding lines does not touch it -/
structure Rehearsing (services : Services σ) (part : σ → Rehearsal) (put : σ → Rehearsal → σ) : Prop where
  opens : ∀ world, (services.collector.openRecord world).result = (part world).openRecord.1 ∧
    part (services.collector.openRecord world).world = (part world).openRecord.2
  submits : ∀ handle status ttl world,
    (services.collector.submitRecord handle status ttl world).result =
        ((part world).submitRecord handle status ttl).1 ∧
      part (services.collector.submitRecord handle status ttl world).world =
        ((part world).submitRecord handle status ttl).2
  appends : ∀ handle text world, part (services.appendLine handle text world).2 = part world
  part_put : ∀ world changed, part (put world changed) = changed

/-- a cue for the rehearsal in a world -/
def Rehearsal.Cue.within (part : σ → Rehearsal) (put : σ → Rehearsal → σ) (cue : Rehearsal.Cue) (world : σ) : σ :=
  put world ((part world).cued cue)

def Happening.call? : Happening Rehearsal.Cue → Option Rehearsal.Call
  | .event e => Rehearsal.call? e
  | .change _ => none

variable {services : Services σ} {part : σ → Rehearsal} {put : σ → Rehearsal → σ} {world : σ}

/-! ## The rehearsal alone -/

namespace Rehearsal

/-- the rehearsal behind what happens -/
def after (r : Rehearsal) : Happening Cue → Rehearsal
  | .event (.opening _) => r.openRecord.2
  | .event (.submission handle status ttl _) => (r.submitRecord handle status ttl).2
  | .event _ => r
  | .change cue => r.cued cue

/-- the rehearsal behind a timeline -/
def behind (r : Rehearsal) (timeline : List (Happening Cue)) : Rehearsal := timeline.foldl after r

/-- a call tells what the rehearsal answers -/
def Answers (r : Rehearsal) : Happening Cue → Prop
  | .event (.opening result) => r.openRecord.1 = result
  | .event (.submission handle status ttl result) => (r.submitRecord handle status ttl).1 = result
  | _ => True

/-- every call of a timeline tells what it is answered -/
def Tells (r : Rehearsal) (timeline : List (Happening Cue)) : Prop :=
  ∀ past happening, past ++ [happening] <+: timeline → (r.behind past).Answers happening

theorem behind_concat (r : Rehearsal) (past : List (Happening Cue)) (last : Happening Cue) :
    r.behind (past ++ [last]) = (r.behind past).after last :=
  List.foldl_concat ..

theorem tells_concat {r : Rehearsal} {past : List (Happening Cue)} {last : Happening Cue}
    (tells : r.Tells (past ++ [last])) : r.Tells past ∧ (r.behind past).Answers last :=
  ⟨fun _ _ h => tells _ _ (h.trans (List.prefix_append ..)), tells past last List.prefix_rfl⟩

/-- in any place where sessions rehearse, what happens does to the rehearsal what it does to it alone -/
theorem after_within (place : Rehearsing services part put) (world : σ) (happening : Happening Cue) :
    part (happening.after services (Cue.within part put) world) = (part world).after happening := by
  cases happening with
  | change cue => exact place.part_put world _
  | event event =>
    cases event with
    | opening result => exact (place.opens world).2
    | appending handle text result => exact place.appends handle text world
    | submission handle status ttl result => exact (place.submits handle status ttl world).2
    | logged entry => rfl

theorem answers_within (place : Rehearsing services part put) {happening : Happening Cue}
    (answers : happening.Answers services world) : (part world).Answers happening := by
  cases happening with
  | change cue => trivial
  | event event =>
    cases event with
    | opening result => exact (place.opens world).1.symm.trans answers
    | submission handle status ttl result => exact (place.submits handle status ttl world).1.symm.trans answers
    | appending handle text result => trivial
    | logged entry => trivial

theorem behind_within (place : Rehearsing services part put) (world : σ) (timeline : List (Happening Cue)) :
    part (Timeline.replay services (Cue.within part put) world timeline) = (part world).behind timeline := by
  induction timeline generalizing world with
  | nil => rfl
  | cons happening later ih =>
    refine (ih _).trans ?_
    rw [after_within place]
    rfl

theorem tells_within (place : Rehearsing services part put) {timeline : List (Happening Cue)}
    (told : Timeline.Told services (Cue.within part put) world timeline) : (part world).Tells timeline := by
  intro past happening h
  have last := (Timeline.told_append.1 (Timeline.told_of_prefix h told)).2
  rw [← behind_within place]
  exact answers_within place (last _ (List.mem_singleton_self _))

/-! ## Accounts of a rehearsal -/

/-- what happens is written down if it is a call, and a handle that is accepted is taken for the first time -/
theorem books_after {r : Rehearsal} {happening : Happening Cue} (answers : r.Answers happening) :
    (r.after happening).calls = r.calls ++ happening.call?.toList ∧
      (r.after happening).submitted = r.submitted ++ happening.accepted?.toList ∧
      ∀ handle ∈ happening.accepted?, handle ∉ r.submitted := by
  cases happening with
  | change cue => cases cue <;> exact ⟨(List.append_nil _).symm, (List.append_nil _).symm, fun _ h => by cases h⟩
  | event event =>
    cases event with
    | logged entry => exact ⟨(List.append_nil _).symm, (List.append_nil _).symm, fun _ h => by cases h⟩
    | appending handle text result => exact ⟨(List.append_nil _).symm, (List.append_nil _).symm, fun _ h => by cases h⟩
    | opening result =>
      obtain ⟨calls, submitted⟩ := r.openRecord_kept
      exact ⟨calls, submitted.trans (List.append_nil _).symm, fun _ h => by cases h⟩
    | submission handle status ttl result =>
      have answered : (r.submitRecord handle status ttl).1 = result := answers
      obtain ⟨calls, taken⟩ := r.submitRecord_cases handle status ttl
      refine ⟨calls, ?_⟩
      rcases taken with ⟨fresh, hr, hs⟩ | ⟨e, hr, hs⟩
      · rw [hr] at answered
        subst answered
        refine ⟨hs, fun other ho => ?_⟩
        cases ho
        exact fresh
      · rw [hr] at answered
        subst answered
        exact ⟨hs.trans (List.append_nil _).symm, fun _ h => by cases h⟩

/-- **The books of a rehearsal are right.** -/
theorem books {timeline : List (Happening Cue)} (tells : empty.Tells timeline) :
    (empty.behind timeline).calls = timeline.filterMap Happening.call? ∧
      (empty.behind timeline).submitted = timeline.filterMap Happening.accepted? ∧
      (timeline.filterMap (Happening.accepted? (δ := Cue))).Nodup := by
  induction timeline using List.reverseRecOn with
  | nil => exact ⟨rfl, rfl, List.nodup_nil⟩
  | append_singleton past last ih =>
    obtain ⟨earlier, answers⟩ := tells_concat tells
    obtain ⟨calls, submitted, once⟩ := ih earlier
    obtain ⟨calls', submitted', fresh⟩ := books_after answers
    rw [behind_concat, List.filterMap_append, List.filterMap_append]
    refine ⟨?_, ?_, ?_⟩
    · refine calls'.trans ?_
      rw [calls]
      cases h : last.call? <;> simp [h]
    · refine submitted'.trans ?_
      rw [submitted]
      cases h : last.accepted? <;> simp [h]
    · rw [submitted] at fresh
      cases h : last.accepted? with
      | none => simpa [h] using once
      | some handle =>
        have new := fresh handle h
        rw [List.filterMap_cons_some h, List.filterMap_nil, List.nodup_append]
        refine ⟨once, List.nodup_singleton _, fun other ho handle' hh => ?_⟩
        rw [List.mem_singleton.1 hh]
        rintro rfl
        exact new ho

/-- in any place where sessions rehearse, the books are right as well -/
theorem accounts (place : Rehearsing services part put) (start : part world = .empty)
    {timeline : List (Happening Rehearsal.Cue)}
    (told : Timeline.Told services (Rehearsal.Cue.within part put) world timeline) :
    let behind := Timeline.replay services (Rehearsal.Cue.within part put) world timeline
    (part behind).calls = timeline.filterMap Happening.call? ∧
      (part behind).submitted = timeline.filterMap Happening.accepted? ∧
      (timeline.filterMap (Happening.accepted? (δ := Rehearsal.Cue))).Nodup := by
  intro behind
  have tells := tells_within place told
  have same : part behind = (part world).behind timeline := behind_within place world timeline
  rw [start] at tells same
  rw [same]
  exact books tells

end Rehearsal

/-! ## Benches -/

namespace Bench

def withRehearsal (bench : Bench) (rehearsal : Rehearsal) : Bench := { bench with rehearsal := rehearsal }

theorem rehearsing : Rehearsing Bench.services Bench.rehearsal withRehearsal where
  opens _ := ⟨rfl, rfl⟩
  submits _ _ _ _ := ⟨rfl, rfl⟩
  appends _ _ _ := rfl
  part_put _ _ := rfl

end Bench

/-! ## Main result -/

/-- what holds of sessions that share a collector to rehearse with, which is called directly as well -/
structure Desk.TakesOnce (services : Services σ) (part : σ → Rehearsal) (put : σ → Rehearsal → σ) (world : σ)
    (turns : List (Turn Rehearsal.Cue)) : Prop where
  /-- the timeline tells what each call was answered and what became of the world -/
  answered : Timeline.Told services (Rehearsal.Cue.within part put) world
    ((opening world).turns services (Rehearsal.Cue.within part put) turns).2
  told : Timeline.replay services (Rehearsal.Cue.within part put) world
      ((opening world).turns services (Rehearsal.Cue.within part put) turns).2 =
    ((opening world).turns services (Rehearsal.Cue.within part put) turns).1.world
  /-- at every moment a handle has been accepted at most once, and it is taken exactly if it has been once -/
  single_use : ∀ past, past <+: ((opening world).turns services (Rehearsal.Cue.within part put) turns).2 → ∀ handle,
    past.countP (fun happening => happening.accepted? = some handle) ≤ 1 ∧
      (handle ∈ (part (Timeline.replay services (Rehearsal.Cue.within part put) world past)).submitted ↔
        past.countP (fun happening => happening.accepted? = some handle) = 1)
  /-- at every moment all calls are written down, those that failed as well, in their order and with their arguments -/
  written : ∀ past, past <+: ((opening world).turns services (Rehearsal.Cue.within part put) turns).2 →
    (part (Timeline.replay services (Rehearsal.Cue.within part put) world past)).calls =
      past.filterMap Happening.call?
  /-- two sessions that were ever closed were closed with two handles -/
  distinct : ∀ i k j l handle, Closed services (Rehearsal.Cue.within part put) (opening world) turns i k handle →
    Closed services (Rehearsal.Cue.within part put) (opening world) turns j l handle → i = j ∧ k = l
  /-- and each of them with one -/
  one_handle : ∀ i k handle other, Closed services (Rehearsal.Cue.within part put) (opening world) turns i k handle →
    Closed services (Rehearsal.Cue.within part put) (opening world) turns i k other → handle = other
  /-- if sessions alone hand in, the handles taken are those of the sessions that were ever closed, one for one -/
  matched : (∀ turn ∈ turns, turn.isDirect = false) → ∀ handle,
    handle ∈ (part ((opening world).turns services (Rehearsal.Cue.within part put) turns).1.world).submitted ↔
      ∃! session : ℕ × ℕ,
        Closed services (Rehearsal.Cue.within part put) (opening world) turns session.1 session.2 handle
  /-- a run is so many of its steps, so that runs which take place at the same time are moves in some order as well -/
  split : ∀ (desk : Desk σ) i lines token minutes, ∃ k, desk.run services [.run i lines token minutes] =
    desk.run services (((Session.steps lines token minutes).take k).map (.ofCall i))

/-- **A handle is taken once.** For any sessions, direct calls and cues, in any order, with a rehearsal that has not
begun. -/
theorem Desk.rehearsal_takes_once (services : Services σ) (part : σ → Rehearsal) (put : σ → Rehearsal → σ)
    (place : Rehearsing services part put) (world : σ) (start : part world = .empty)
    (turns : List (Turn Rehearsal.Cue)) : TakesOnce services part put world turns := by
  obtain ⟨answered, told⟩ := turns_told services (Rehearsal.Cue.within part put) (opening world) turns
  have books := Rehearsal.accounts place start answered
  have closings := Desk.closings services (Rehearsal.Cue.within part put) (opening world) (fun _ => rfl) turns
  refine { answered := answered, told := told, single_use := ?single_use, written := ?written,
           distinct := closings.one_session books.2.2, one_handle := closings.one_handle, matched := ?matched,
           split := run_split services }
  case single_use =>
    intro past hp handle
    obtain ⟨-, submitted, once⟩ := Rehearsal.accounts place start (Timeline.told_of_prefix hp answered)
    have counted : past.countP (fun happening => happening.accepted? = some handle) =
        (past.filterMap Happening.accepted?).count handle := by
      rw [List.count_filterMap]
      exact List.countP_congr fun _ _ => by rw [decide_eq_true_iff, beq_iff_eq]
    rw [counted, submitted]
    refine ⟨List.nodup_iff_count_le_one.1 once handle, ?_⟩
    rw [← List.count_pos_iff]
    have := List.nodup_iff_count_le_one.1 once handle
    omega
  case written =>
    intro past hp
    exact (Rehearsal.accounts place start (Timeline.told_of_prefix hp answered)).1
  case matched =>
    intro sessions handle
    have submitted := (congrArg (fun world => (part world).submitted) told).symm.trans books.2.1
    rw [submitted]
    constructor
    · intro hm
      obtain ⟨i, k, closed⟩ := closings.covered sessions handle hm
      refine ⟨(i, k), closed, ?_⟩
      rintro ⟨j, l⟩ closed'
      obtain ⟨rfl, rfl⟩ := closings.one_session books.2.2 j l i k handle closed' closed
      rfl
    · rintro ⟨⟨i, k⟩, closed, -⟩
      exact closings.taken i k handle closed

/-- two sessions take up one record and a third opens another; the first submission fails by the script, and the one
behind the success is refused -/
def Desk.scene : List (Turn Rehearsal.Cue) :=
  let shared : Handle := ⟨"/r", by decide, by decide⟩
  [.change (.submitFailure (.unavailable "down")), .move (.resume 0 shared), .move (.resume 1 shared),
    .move (.finish 0 "OKAY" 5), .move (.finish 1 "OKAY" 5), .move (.finish 0 "OKAY" 5), .change (.handle "/s"),
    .move (.begin 2), .move (.finish 2 "FAIL" 5)]

/-- three sessions with two records: one open call and four submit calls, of which one hands `/r` in -/
theorem Desk.rehearsal_takes_once_bench :
    let bench : Bench := ⟨.empty, Host.bare.disk⟩
    let last := ((opening bench).turns Bench.services (Rehearsal.Cue.within Bench.rehearsal Bench.withRehearsal) scene).1
    Rehearsing Bench.services Bench.rehearsal Bench.withRehearsal ∧ Bench.rehearsal bench = .empty ∧
      last.world.rehearsal.calls.length = 5 ∧
      (∃! session : ℕ × ℕ, Closed Bench.services (Rehearsal.Cue.within Bench.rehearsal Bench.withRehearsal)
        (opening bench) scene session.1 session.2 ⟨"/r", by decide, by decide⟩) := by
  intro bench last
  have takes := rehearsal_takes_once Bench.services Bench.rehearsal Bench.withRehearsal Bench.rehearsing bench rfl scene
  refine ⟨Bench.rehearsing, rfl, ?_, ?_⟩
  · have written := takes.written _ List.prefix_rfl
    rw [takes.told] at written
    refine (congrArg List.length written).trans ?_
    decide +kernel
  · exact (takes.matched (by decide) _).1 (by decide +kernel)

end CheckReport
