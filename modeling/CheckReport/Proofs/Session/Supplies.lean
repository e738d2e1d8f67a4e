/-
What a rehearsal gives out.

A collector to rehearse with has three queues, one of handles and one of failures for each kind of call, and a number for
each record that it has to name itself. Anyone who shares it fills the queues at any time, and calls empty them. What
becomes of them can be told from the rehearsal alone, wherever it is shared (`after_within`).

- `queue_balance`: a queue that each moment balances is first in, first out over a whole timeline.
- `numbered_injective`, `exists_handle_numbered`: made up names are handles, and different ones for different numbers.
- `Rehearsal.supplies`: failures and handles go out in the order in which they were queued, a call that a failure meets
  uses up nothing else, and no handle is given out twice.
- `Desk.rehearsal_supplied`: so it is for sessions, direct calls and cues in any order.
-/
import CheckReport.Proofs.Record.Minutes
import CheckReport.Proofs.Session.Rehearsing

namespace CheckReport

open Session (Event Services)

/-! ## Kinds of calls and cues -/

namespace Rehearsal

/-- kind of a call -/
inductive Kind where
  | opens
  | submits
  deriving DecidableEq, Repr

def Kind.phase : Kind → Phase
  | .opens => .begin
  | .submits => .finish

def Call.kind : Call → Kind
  | .opening => .opens
  | .submission _ _ _ => .submits

/-- the failures that wait for calls of a kind, next first -/
@[simp] def waiting (r : Rehearsal) : Kind → List Failure
  | .opens => r.openFailures
  | .submits => r.submitFailures

/-- the handle that a cue queues -/
def Cue.handle? : Cue → Option String
  | .handle text => some text
  | _ => none

/-- the failure that a cue queues for calls of a kind -/
def Cue.failure? : Kind → Cue → Option Failure
  | .opens, .openFailure failure => some failure
  | .submits, .submitFailure failure => some failure
  | _, _ => none

end Rehearsal

namespace Happening

/-- the kind of the call that is made when something happens -/
def kind? (happening : Happening Rehearsal.Cue) : Option Rehearsal.Kind := happening.call?.map Rehearsal.Call.kind

@[simp] theorem kind?_change (cue : Rehearsal.Cue) : (change cue).kind? = none := rfl

@[simp] theorem kind?_opening (result : Except Error Handle) : (event (.opening result)).kind? = some .opens := rfl

@[simp] theorem kind?_submission (handle : Handle) (status : Status) (ttl : Ttl) (result : Except Error Unit) :
    (event (.submission handle status ttl result)).kind? = some .submits := rfl

@[simp] theorem kind?_appending (handle : Handle) (text : String) (result : Except Disk.Fault Unit) :
    (event (.appending handle text result)).kind? = none := rfl

@[simp] theorem kind?_logged (entry : Log.Entry) : (event (.logged entry)).kind? = none := rfl

/-- the handle that is queued when something happens -/
@[simp] def queued? : Happening Rehearsal.Cue → Option String
  | .change cue => cue.handle?
  | .event _ => none

/-- the failure that is queued for calls of a kind when something happens -/
@[simp] def queuedFailure? (kind : Rehearsal.Kind) : Happening Rehearsal.Cue → Option Rehearsal.Failure
  | .change cue => cue.failure? kind
  | .event _ => none

/-- the handle that an open call gives out -/
def opened? : Happening Rehearsal.Cue → Option Handle
  | .event (.opening (.ok handle)) => some handle
  | _ => none

/-- the error with which a call fails -/
def error? : Happening Rehearsal.Cue → Option Error
  | .event (.opening (.error e)) => some e
  | .event (.submission _ _ _ (.error e)) => some e
  | _ => none

end Happening

namespace Rehearsal

/-! ## Queues -/

/-- what a rehearsal yields at each moment of a timeline -/
def gather {α : Type} (yield : Rehearsal → Happening Cue → Option α) : Rehearsal → List (Happening Cue) → List α
  | _, [] => []
  | r, happening :: later => (yield r happening).toList ++ gather yield (r.after happening) later

theorem gather_concat {α : Type} (yield : Rehearsal → Happening Cue → Option α) (r : Rehearsal)
    (past : List (Happening Cue)) (last : Happening Cue) :
    gather yield r (past ++ [last]) = gather yield r past ++ (yield (r.behind past) last).toList := by
  induction past generalizing r with
  | nil => simp [gather, behind]
  | cons happening past ih =>
    have tail := ih (r.after happening)
    simp only [List.cons_append, gather, tail, List.append_assoc]
    rfl

/-- **First in, first out.** What was in a queue and what was put into it is what was drawn from it and what is left, in
the same order, if this holds at each moment. -/
theorem queue_balance {α : Type} {queue : Rehearsal → List α} {put? : Happening Cue → Option α}
    {draw? : Rehearsal → Happening Cue → Option α}
    (step : ∀ r happening,
      queue r ++ (put? happening).toList = (draw? r happening).toList ++ queue (r.after happening))
    (r : Rehearsal) (timeline : List (Happening Cue)) :
    queue r ++ timeline.filterMap put? = gather draw? r timeline ++ queue (r.behind timeline) := by
  induction timeline generalizing r with
  | nil => simp [gather, behind]
  | cons happening later ih =>
    have cut : (happening :: later).filterMap put? = (put? happening).toList ++ later.filterMap put? := by
      cases h : put? happening <;> simp [h]
    calc queue r ++ (happening :: later).filterMap put?
        = (draw? r happening).toList ++ (queue (r.after happening) ++ later.filterMap put?) := by
          rw [cut, ← List.append_assoc, step, List.append_assoc]
      _ = gather draw? r (happening :: later) ++ queue (r.behind (happening :: later)) := by
          rw [ih, ← List.append_assoc]
          rfl

/-- the failure that meets a call of a kind -/
def met? (kind : Kind) (r : Rehearsal) (happening : Happening Cue) : Option Failure :=
  if happening.kind? = some kind then (r.waiting kind).head? else none

/-- the handle that an open call takes from the queue, if no failure meets it -/
def taken? (r : Rehearsal) (happening : Happening Cue) : Option String :=
  if happening.kind? = some .opens ∧ r.openFailures = [] then r.handles.head? else none

/-- a cue puts its failure behind those that wait for calls of its kind -/
theorem waiting_cued (kind : Kind) (r : Rehearsal) (cue : Cue) :
    (r.cued cue).waiting kind = r.waiting kind ++ (cue.failure? kind).toList := by
  cases cue <;> cases kind <;> simp [cued, queueHandle, queueOpenFailure, queueSubmitFailure, Cue.failure?]

/-- and its handle behind those that wait -/
theorem handles_cued (r : Rehearsal) (cue : Cue) : (r.cued cue).handles = r.handles ++ cue.handle?.toList := by
  cases cue <;> simp [cued, queueHandle, queueOpenFailure, queueSubmitFailure, Cue.handle?]

theorem waiting_balance (kind : Kind) (r : Rehearsal) (happening : Happening Cue) :
    r.waiting kind ++ (happening.queuedFailure? kind).toList =
      (met? kind r happening).toList ++ (r.after happening).waiting kind := by
  cases happening with
  | change cue => exact (waiting_cued kind r cue).symm
  | event event =>
    cases event with
    | opening result =>
      rcases r.openRecord_by_script with ⟨failure, later, hf, h⟩ | ⟨text, later, hf, -, h⟩ | ⟨hf, -, h⟩ <;>
        cases kind <;> simp [met?, after, h, hf]
    | submission handle status ttl result =>
      rcases r.submitRecord_by_script handle status ttl with ⟨failure, later, hf, h⟩ | ⟨hf, -, h⟩ | ⟨hf, -, h⟩ <;>
        cases kind <;> simp [met?, after, h, hf]
    | appending handle text result => simp [met?, after]
    | logged entry => simp [met?, after]

theorem handles_balance (r : Rehearsal) (happening : Happening Cue) :
    r.handles ++ happening.queued?.toList = (taken? r happening).toList ++ (r.after happening).handles := by
  cases happening with
  | change cue => exact (handles_cued r cue).symm
  | event event =>
    cases event with
    | opening result =>
      rcases r.openRecord_by_script with ⟨failure, later, hf, h⟩ | ⟨text, later, hf, hh, h⟩ | ⟨hf, hh, h⟩
      · simp [taken?, after, h, hf]
      · simp [taken?, after, h, hf, hh]
      · simp [taken?, after, h, hf, hh]
    | submission handle status ttl result =>
      rcases r.submitRecord_by_script handle status ttl with ⟨failure, later, -, h⟩ | ⟨-, -, h⟩ | ⟨-, -, h⟩ <;>
        simp [taken?, after, h]
    | appending handle text result => simp [taken?, after]
    | logged entry => simp [taken?, after]

/-! ## Names that are made up -/

theorem toList_numbered (n : ℕ) :
    (numbered n).toList = "/mock/sn1ff/record-".toList ++ (Nat.toDigits 10 n ++ ".snff".toList) := by
  have text : numbered n = "/mock/sn1ff/record-" ++ toString n ++ ".snff" := rfl
  have digits : (toString n).toList = Nat.toDigits 10 n := by
    rw [Nat.toString_eq_ofList_toDigits, String.toList_ofList]
  rw [text, String.toList_append, String.toList_append, digits, List.append_assoc]

theorem numbered_injective {m n : ℕ} (h : numbered m = numbered n) : m = n := by
  have lists := congrArg String.toList h
  rw [toList_numbered, toList_numbered] at lists
  have digits := List.append_cancel_right (List.append_cancel_left lists)
  have read := Decimal.digits?_toDigits m
  rw [digits, Decimal.digits?_toDigits] at read
  exact (Option.some.inj read).symm

theorem notMem_numbered {c : Char} (digit : Decimal.isDigit c = false) (front : c ∉ "/mock/sn1ff/record-".toList)
    (back : c ∉ ".snff".toList) (n : ℕ) : c ∉ (numbered n).toList := by
  rw [toList_numbered]
  intro mem
  rcases List.mem_append.1 mem with mem | mem
  · exact front mem
  · rcases List.mem_append.1 mem with mem | mem
    · rw [Decimal.isDigit_of_mem_toDigits mem] at digit
      cases digit
    · exact back mem

theorem exists_handle_numbered (n : ℕ) : ∃ handle : Handle, handle.text = numbered n := by
  have blank : Text.isBlankText (numbered n) = false := by
    rw [Text.isBlankText, toList_numbered]
    rfl
  have line : isOneLine (numbered n) = true := by
    rw [isOneLine_iff]
    exact ⟨notMem_numbered rfl (by decide) (by decide) n, notMem_numbered rfl (by decide) (by decide) n,
      notMem_numbered rfl (by decide) (by decide) n⟩
  exact ⟨⟨numbered n, blank, line⟩, rfl⟩

/-! ## Handles that are given out -/

/-- handles that may be queued: each text is one of a handle, no two are the same, and none has the form of a made up
name -/
structure Fit (queued : List String) : Prop where
  valid : ∀ text ∈ queued, ∃ handle : Handle, handle.text = text
  distinct : queued.Nodup
  foreign : ∀ text ∈ queued, ∀ n, text ≠ numbered n

theorem Fit.sublist {queued fewer : List String} (fit : Fit queued) (h : fewer.Sublist queued) : Fit fewer where
  valid text ht := fit.valid text (h.subset ht)
  distinct := fit.distinct.sublist h
  foreign text ht := fit.foreign text (h.subset ht)

/-- the texts of the handles that are given out in a timeline, first one first -/
def given (timeline : List (Happening Cue)) : List String := (timeline.filterMap Happening.opened?).map Handle.text

/-- the handles that are queued in a timeline, first one first -/
def queued (timeline : List (Happening Cue)) : List String := timeline.filterMap Happening.queued?

theorem given_concat (past : List (Happening Cue)) (last : Happening Cue) :
    given (past ++ [last]) = given past ++ (last.opened?.map Handle.text).toList := by
  cases h : last.opened? <;> simp [given, h]

/-- the handles queued are those taken from the queue and those that wait -/
theorem queued_eq (timeline : List (Happening Cue)) :
    queued timeline = gather taken? empty timeline ++ (empty.behind timeline).handles := by
  have balance := queue_balance handles_balance empty timeline
  exact (List.nil_append _).symm.trans balance

theorem parsed_text (handle : Handle) : parsed handle.text = .ok handle := by
  rw [parsed, Handle.parse_text]

/-- what happens gives out nothing, as every open call that a failure meets; or it gives out the handle that waits first;
or, if none waits, the next made up name -/
theorem gives_cases {r : Rehearsal} {happening : Happening Cue} (answers : r.Answers happening)
    (valid : ∀ text ∈ r.handles, ∃ handle : Handle, handle.text = text) :
    (happening.opened? = none ∧ taken? r happening = none ∧ (r.after happening).opened = r.opened ∧
      (happening.kind? = some .opens → r.openFailures ≠ [])) ∨
    (∃ handle, happening.opened? = some handle ∧ (r.after happening).opened = r.opened + 1 ∧
      handle.text = (taken? r happening).getD (numbered (r.opened + 1))) := by
  cases happening with
  | change cue =>
    left
    cases cue <;> exact ⟨rfl, rfl, rfl, fun h => by cases h⟩
  | event event =>
    cases event with
    | opening result =>
      change r.openRecord.1 = result at answers
      rcases r.openRecord_by_script with ⟨failure, later, hf, h⟩ | ⟨text, later, hf, hh, h⟩ | ⟨hf, hh, h⟩
      · left
        rw [h] at answers
        subst answers
        refine ⟨rfl, ?_, ?_, fun _ => ?_⟩
        · simp [taken?, hf]
        · simp [after, h]
        · simp [hf]
      · right
        obtain ⟨handle, rfl⟩ := valid text (by simp [hh])
        rw [h, parsed_text] at answers
        subst answers
        refine ⟨handle, rfl, ?_, ?_⟩
        · simp [after, h]
        · simp [taken?, hf, hh]
      · right
        obtain ⟨handle, name⟩ := exists_handle_numbered (r.opened + 1)
        rw [h, ← name, parsed_text] at answers
        subst answers
        refine ⟨handle, rfl, ?_, ?_⟩
        · simp [after, h]
        · simp [taken?, hh, name]
    | submission handle status ttl result =>
      left
      refine ⟨rfl, rfl, ?_, fun h => by cases h⟩
      rcases r.submitRecord_by_script handle status ttl with ⟨_, _, -, h⟩ | ⟨-, -, h⟩ | ⟨-, -, h⟩ <;> simp [after, h]
    | appending handle text result => exact Or.inl ⟨rfl, rfl, rfl, fun h => by cases h⟩
    | logged entry => exact Or.inl ⟨rfl, rfl, rfl, fun h => by cases h⟩

/-- a handle that an open call takes waits first -/
theorem mem_of_taken? {r : Rehearsal} {happening : Happening Cue} {text : String}
    (h : taken? r happening = some text) : text ∈ r.handles := by
  unfold taken? at h
  split at h
  · exact List.mem_of_mem_head? h
  · cases h

/-- where the handles given out in a timeline come from, if those that are queued are among fit ones -/
structure Issued (fitting : List String) (past : List (Happening Cue)) : Prop where
  /-- those that were queued were taken from the queue -/
  from_queue : (given past).filter (· ∈ fitting) = gather taken? empty past
  /-- the others are made up names up to a number -/
  made_up : ∀ text ∈ given past, text ∈ fitting ∨ ∃ n ≤ (empty.behind past).opened, text = numbered n
  counted : (empty.behind past).opened = (given past).length
  distinct : (given past).Nodup

section Issued

variable {fitting : List String} {past : List (Happening Cue)} {last : Happening Cue} {text : String}

/-- what waits has not been given out -/
theorem Issued.fresh_of_waiting (before : Issued fitting past) (fit : Fit fitting) (within : queued past <+: fitting)
    (waits : text ∈ (empty.behind past).handles) (mem : text ∈ fitting) : text ∉ given past := by
  -- the queue has it once, so it is not among what was taken before
  have once : (gather taken? empty past ++ (empty.behind past).handles).Nodup := by
    rw [← queued_eq]
    exact fit.distinct.sublist within.sublist
  intro h
  have earlier : text ∈ gather taken? empty past := by
    rw [← before.from_queue]
    exact List.mem_filter.2 ⟨h, by simpa using mem⟩
  exact (List.nodup_append.1 once).2.2 _ earlier _ waits rfl

/-- the next made up name has not been given out -/
theorem Issued.fresh_of_made_up (before : Issued fitting past) (fit : Fit fitting) :
    numbered ((empty.behind past).opened + 1) ∉ given past := by
  intro h
  rcases before.made_up _ h with h | ⟨n, hn, h⟩
  · exact fit.foreign _ h _ rfl
  · have := numbered_injective h
    omega

/-- one more handle, taken from the queue if it is a fit one and else made up -/
theorem Issued.more (before : Issued fitting past) (grown : given (past ++ [last]) = given past ++ [text])
    (opened : (empty.behind (past ++ [last])).opened = (empty.behind past).opened + 1) (fresh : text ∉ given past)
    (source : [text].filter (· ∈ fitting) = (taken? (empty.behind past) last).toList)
    (origin : text ∈ fitting ∨ text = numbered ((empty.behind past).opened + 1)) : Issued fitting (past ++ [last]) := by
  refine { from_queue := ?_, made_up := ?_, counted := ?_, distinct := ?_ }
  · rw [grown, List.filter_append, before.from_queue, gather_concat, source]
  · intro other ho
    rw [grown, List.mem_append, List.mem_singleton] at ho
    rw [opened]
    rcases ho with ho | rfl
    · apply (before.made_up other ho).imp_right
      rintro ⟨n, hn, name⟩
      exact ⟨n, by omega, name⟩
    · exact origin.imp_right fun name => ⟨_, le_rfl, name⟩
  · simp [grown, opened, before.counted]
  · rw [grown, List.nodup_append]
    refine ⟨before.distinct, List.nodup_singleton text, ?_⟩
    intro other ho text' ht
    rw [List.mem_singleton.1 ht]
    exact ne_of_mem_of_not_mem ho fresh

theorem issued_concat (fit : Fit fitting) (tells : empty.Tells (past ++ [last])) (within : queued past <+: fitting)
    (before : Issued fitting past) : Issued fitting (past ++ [last]) := by
  have waits : ∀ text ∈ (empty.behind past).handles, text ∈ fitting := by
    intro text ht
    apply within.subset
    rw [queued_eq]
    exact List.mem_append_right _ ht
  rcases gives_cases (tells_concat tells).2 (fun text ht => fit.valid text (waits text ht)) with
    ⟨none, untaken, same, -⟩ | ⟨handle, some, one, name⟩
  · have idle : given (past ++ [last]) = given past := by simp [given_concat, none]
    refine { from_queue := ?_, made_up := ?_, counted := ?_, distinct := ?_ }
    · simp [idle, gather_concat, untaken, before.from_queue]
    · simpa [idle, behind_concat, same] using before.made_up
    · simp [idle, behind_concat, same, before.counted]
    · simpa [idle] using before.distinct
  · have grown : given (past ++ [last]) = given past ++ [handle.text] := by simp [given_concat, some]
    have opened : (empty.behind (past ++ [last])).opened = (empty.behind past).opened + 1 := by
      rw [behind_concat, one]
    cases taken : taken? (empty.behind past) last with
    | some text =>
      obtain rfl : text = handle.text := by rw [name, taken, Option.getD_some]
      have waiting := mem_of_taken? taken
      have mem := waits _ waiting
      apply before.more grown opened (before.fresh_of_waiting fit within waiting mem)
      · simp [taken, mem]
      · exact Or.inl mem
    | none =>
      have made : handle.text = numbered ((empty.behind past).opened + 1) := by rw [name, taken, Option.getD_none]
      have foreign : handle.text ∉ fitting := fun h => fit.foreign _ h _ made
      apply before.more grown opened (made ▸ before.fresh_of_made_up fit)
      · simp [taken, foreign]
      · exact Or.inr made

end Issued

theorem issued {fitting : List String} (fit : Fit fitting) {timeline : List (Happening Cue)}
    (tells : empty.Tells timeline) (within : queued timeline <+: fitting) : Issued fitting timeline := by
  induction timeline using List.reverseRecOn with
  | nil => exact ⟨rfl, fun _ h => (List.not_mem_nil h).elim, rfl, List.nodup_nil⟩
  | append_singleton past last ih =>
    have shorter : queued past <+: fitting := by
      refine List.IsPrefix.trans ?_ within
      exact (List.prefix_append past [last]).filterMap _
    exact issued_concat fit tells shorter (ih (tells_concat tells).1 shorter)

/-! ## What a rehearsal does in a timeline -/

/-- no handle, no number and no submission has been used up -/
structure Spares (before after : Rehearsal) : Prop where
  handles_eq : after.handles = before.handles
  opened_eq : after.opened = before.opened
  submitted_eq : after.submitted = before.submitted

/-- a call that a failure meets fails by it and uses up nothing -/
theorem fails_of_met {r : Rehearsal} {kind : Kind} {happening : Happening Cue} {failure : Failure}
    (answers : r.Answers happening) (meets : met? kind r happening = some failure) :
    happening.error? = some (failure.error kind.phase) ∧ Spares r (r.after happening) := by
  have called : happening.kind? = some kind := by
    unfold met? at meets
    split at meets
    · assumption
    · cases meets
  have first : (r.waiting kind).head? = some failure := by
    rw [met?, if_pos called] at meets
    exact meets
  cases happening with
  | change cue => cases called
  | event event =>
    cases event with
    | opening result =>
      cases called
      change r.openFailures.head? = some failure at first
      rcases r.openRecord_by_script with ⟨failure', later, hf, h⟩ | ⟨_, _, hf, -, -⟩ | ⟨hf, -, -⟩
      · obtain rfl : failure' = failure := by simpa [hf] using first
        obtain rfl : .error (failure'.error .begin) = result := (congrArg Prod.fst h).symm.trans answers
        refine ⟨rfl, ?_⟩
        constructor <;> simp [after, h]
      · simp [hf] at first
      · simp [hf] at first
    | submission handle status ttl result =>
      cases called
      change r.submitFailures.head? = some failure at first
      rcases r.submitRecord_by_script handle status ttl with ⟨failure', later, hf, h⟩ | ⟨hf, -, -⟩ | ⟨hf, -, -⟩
      · obtain rfl : failure' = failure := by simpa [hf] using first
        obtain rfl : .error (failure'.error .finish) = result := (congrArg Prod.fst h).symm.trans answers
        refine ⟨rfl, ?_⟩
        constructor <;> simp [after, h]
      · simp [hf] at first
      · simp [hf] at first
    | appending handle text result => cases called
    | logged entry => cases called

/-- a submit call that no failure meets is accepted exactly if its handle has not been taken -/
theorem accepts_iff {r : Rehearsal} (free : r.submitFailures = []) (handle : Handle) (status : Status) (ttl : Ttl) :
    (r.submitRecord handle status ttl).1 = .ok () ↔ handle ∉ r.submitted := by
  rcases r.submitRecord_by_script handle status ttl with ⟨failure, later, hf, -⟩ | ⟨-, taken, h⟩ | ⟨-, fresh, h⟩
  · simp [hf] at free
  · rw [h]
    exact iff_of_false (fun hf => by cases hf) fun fresh => fresh taken
  · rw [h]
    exact iff_of_true rfl fresh

/-- what a rehearsal that was empty gives out, answers and uses up in a timeline -/
structure Supplies (timeline : List (Happening Cue)) : Prop where
  /-- at every moment the failures queued for calls of a kind are those that have met calls of this kind, and then those
  that wait; so they go out in the order in which they were queued, and to no call of the other kind -/
  failures_in_order : ∀ kind past, past <+: timeline →
    past.filterMap (Happening.queuedFailure? kind) =
      gather (met? kind) empty past ++ (empty.behind past).waiting kind
  /-- a call that a queued failure meets fails by it, and uses up no handle, no number and not the submission of its
  handle -/
  failing : ∀ kind past happening failure, past ++ [happening] <+: timeline →
    met? kind (empty.behind past) happening = some failure →
      happening.error? = some (failure.error kind.phase) ∧
        Spares (empty.behind past) (empty.behind (past ++ [happening]))
  /-- at every moment the handles queued are those of them that have been given out, and then those that wait -/
  handles_in_order : Fit (queued timeline) → ∀ past, past <+: timeline →
    queued past = (given past).filter (· ∈ queued past) ++ (empty.behind past).handles
  /-- an open call that no failure meets gives out the handle that waits first; if none waits, the name that is made up
  has the number of handles given out before, and one more -/
  opening : Fit (queued timeline) → ∀ past result, past ++ [.event (.opening result)] <+: timeline →
    (empty.behind past).openFailures = [] → ∃ handle, result = .ok handle ∧
      handle.text = (empty.behind past).handles.head?.getD (numbered ((given past).length + 1))
  /-- a submit call that no failure meets is accepted exactly if none was accepted for its handle before -/
  submitting : ∀ past handle status ttl result,
    past ++ [.event (.submission handle status ttl result)] <+: timeline → (empty.behind past).submitFailures = [] →
      (result = .ok () ↔ ∀ happening ∈ past, happening.accepted? ≠ some handle)
  /-- no handle is given out twice -/
  distinct : Fit (queued timeline) → (given timeline).Nodup

theorem queued_within {past timeline : List (Happening Cue)} (h : past <+: timeline) :
    queued past <+: queued timeline :=
  h.filterMap _

/-- **A rehearsal keeps to its script.** For any timeline that tells what an empty rehearsal answers. -/
theorem supplies {timeline : List (Happening Cue)} (tells : empty.Tells timeline) : Supplies timeline := by
  have earlier : ∀ {past}, past <+: timeline → empty.Tells past := fun h _ _ h' => tells _ _ (h'.trans h)
  have issuedAt : Fit (queued timeline) → ∀ past, past <+: timeline → Issued (queued past) past := by
    intro fit past h
    exact issued (fit.sublist (queued_within h).sublist) (earlier h) List.prefix_rfl
  refine { failures_in_order := ?_, failing := ?_, handles_in_order := ?_, opening := ?_, submitting := ?_,
           distinct := ?_ }
  · intro kind past _
    have none : empty.waiting kind = [] := by cases kind <;> rfl
    have balance := queue_balance (waiting_balance kind) empty past
    rw [none] at balance
    exact balance
  · intro kind past happening failure h meets
    rw [behind_concat]
    exact fails_of_met (tells past happening h) meets
  · intro fit past h
    rw [(issuedAt fit past h).from_queue]
    exact queued_eq past
  · intro fit past result h free
    have before : past <+: timeline := (List.prefix_append past _).trans h
    have valid : ∀ text ∈ (empty.behind past).handles, ∃ handle : Handle, handle.text = text := by
      intro text ht
      apply fit.valid
      apply (queued_within before).subset
      rw [queued_eq]
      exact List.mem_append_right _ ht
    rcases gives_cases (tells past _ h) valid with ⟨-, -, -, met⟩ | ⟨handle, some, -, name⟩
    · exact absurd free (met rfl)
    · refine ⟨handle, ?_, ?_⟩
      · cases result with
        | ok given => exact congrArg Except.ok (Option.some.inj some)
        | error e => cases some
      · have called : (Happening.event (.opening result)).kind? = .some .opens := rfl
        rw [taken?, if_pos ⟨called, free⟩, (issuedAt fit past before).counted] at name
        exact name
  · intro past handle status ttl result h free
    have before : past <+: timeline := (List.prefix_append past _).trans h
    have answered : ((empty.behind past).submitRecord handle status ttl).1 = result := tells past _ h
    rw [← answered, accepts_iff free, (books (earlier before)).2.1]
    simp [List.mem_filterMap]
  · intro fit
    exact (issuedAt fit timeline List.prefix_rfl).distinct

end Rehearsal

/-! ## Main result -/

variable {σ : Type}

/-- what holds of a collector to rehearse with that sessions share and that is called directly as well -/
structure Desk.Supplied (services : Services σ) (part : σ → Rehearsal) (put : σ → Rehearsal → σ) (world : σ)
    (turns : List (Turn Rehearsal.Cue)) : Prop where
  /-- the timeline tells what each call was answered and what became of the world -/
  answered : Timeline.Told services (Rehearsal.Cue.within part put) world
    ((opening world).turns services (Rehearsal.Cue.within part put) turns).2
  told : Timeline.replay services (Rehearsal.Cue.within part put) world
      ((opening world).turns services (Rehearsal.Cue.within part put) turns).2 =
    ((opening world).turns services (Rehearsal.Cue.within part put) turns).1.world
  /-- at every moment the rehearsal is what the timeline makes of an empty one -/
  alone : ∀ past, past <+: ((opening world).turns services (Rehearsal.Cue.within part put) turns).2 →
    part (Timeline.replay services (Rehearsal.Cue.within part put) world past) = Rehearsal.empty.behind past
  /-- and it keeps to its script -/
  supplies : Rehearsal.Supplies ((opening world).turns services (Rehearsal.Cue.within part put) turns).2

/-- **Handles are given out once, and the script is kept.** For any sessions, direct calls and cues, in any order, with a
rehearsal that has not begun. -/
theorem Desk.rehearsal_supplied (services : Services σ) (part : σ → Rehearsal) (put : σ → Rehearsal → σ)
    (place : Rehearsing services part put) (world : σ) (start : part world = .empty)
    (turns : List (Turn Rehearsal.Cue)) : Supplied services part put world turns := by
  obtain ⟨answered, told⟩ := turns_told services (Rehearsal.Cue.within part put) (opening world) turns
  refine { answered := answered, told := told, alone := ?alone, supplies := ?supplies }
  case alone =>
    intro past _
    rw [← start]
    exact Rehearsal.behind_within place world past
  case supplies =>
    apply Rehearsal.supplies
    rw [← start]
    exact Rehearsal.tells_within place answered

/-- two handles are queued, one of them late, and a failure for each kind of call; a session and direct calls open -/
def Desk.supplyScene : List (Turn Rehearsal.Cue) :=
  let handle : Handle := ⟨"/a", by decide, by decide⟩
  [.change (.handle "/a"), .change (.openFailure (.unavailable "down")),
    .change (.submitFailure (.rejected 1 "record already submitted: /a")), .move .openRecord, .move .openRecord,
    .move (.begin 0), .move (.submitRecord handle ⟨"OKAY", by decide⟩ ⟨5, by decide⟩), .change (.handle "/b"),
    .move .openRecord, .move (.finish 0 "OKAY" 5), .move .openRecord]

/-- four handles, two of them made up; the failures meet the first call of each kind -/
theorem Desk.rehearsal_supplied_bench :
    let bench : Bench := ⟨.empty, Host.bare.disk⟩
    let timeline := ((opening bench).turns Bench.services
      (Rehearsal.Cue.within Bench.rehearsal Bench.withRehearsal) supplyScene).2
    Rehearsing Bench.services Bench.rehearsal Bench.withRehearsal ∧ Bench.rehearsal bench = .empty ∧
      Rehearsal.Fit (Rehearsal.queued timeline) ∧
      Rehearsal.given timeline = ["/a", "/mock/sn1ff/record-2.snff", "/b", "/mock/sn1ff/record-4.snff"] ∧
      (Rehearsal.given timeline).Nodup ∧
      Rehearsal.gather (Rehearsal.met? .submits) .empty timeline =
        [.rejected 1 "record already submitted: /a"] := by
  intro bench timeline
  have supplied := rehearsal_supplied Bench.services Bench.rehearsal Bench.withRehearsal Bench.rehearsing bench rfl
    supplyScene
  have queued : Rehearsal.queued timeline = ["/a", "/b"] := by decide +kernel
  have fit : Rehearsal.Fit (Rehearsal.queued timeline) := by
    rw [queued]
    refine { valid := ?_, distinct := by decide, foreign := ?_ }
    · intro text ht
      simp only [List.mem_cons, List.not_mem_nil, or_false] at ht
      rcases ht with rfl | rfl
      · exact ⟨⟨"/a", by decide, by decide⟩, rfl⟩
      · exact ⟨⟨"/b", by decide, by decide⟩, rfl⟩
    · intro text ht n name
      have second := congrArg (·.toList[1]?) name
      simp only [List.mem_cons, List.not_mem_nil, or_false] at ht
      rcases ht with rfl | rfl <;> simp [Rehearsal.toList_numbered] at second
  have order := supplied.supplies.failures_in_order .submits timeline List.prefix_rfl
  have put : timeline.filterMap (Happening.queuedFailure? .submits) =
    [.rejected 1 "record already submitted: /a"] := by decide +kernel
  have left : (Rehearsal.empty.behind timeline).waiting .submits = [] := by decide +kernel
  rw [put, left, List.append_nil] at order
  exact ⟨Bench.rehearsing, rfl, fit, by decide +kernel, supplied.supplies.distinct fit, order.symm⟩

end CheckReport
