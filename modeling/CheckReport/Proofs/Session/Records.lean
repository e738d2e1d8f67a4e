/-
What the records hold.

Many sessions add lines to records on one disk. Which file a line goes to is decided when it is added: it is the one to
which the handle's path leads then, so that several handles may address one file. Of the outside it is assumed that an
append which succeeds does to the disk what `Record.appendLine` does, and that one which fails writes no bytes
(`Filing`); and of a single record, that the collector does not touch it (`Spared`).

- `added_after`, `kept_after`: one event adds what it tells to the files that it addresses, and keeps all others.
- `added_replay`, `kept_replay`: a whole trace does.
- `Host.filing`, `Host.spared`: a host whose collector is a program files lines on its disk and spares all records.
- `Desk.records_hold_lines`: at every moment of a desk the records hold what was appended, for any number of sessions
  and any order of their moves.
-/
import CheckReport.Proofs.Collector.Arguments
import CheckReport.Proofs.Disk.Append
import CheckReport.Proofs.Session.Desk
import CheckReport.Session.Places

namespace CheckReport

open Disk (Location)
open Text.Utf8 (Bytes)

namespace Session

/-! ## Moments -/

namespace Event

/-- an attempt to add a line to the file at a location -/
def Addresses (disk : Disk) (loc : Location) : Event → Prop
  | .appending handle _ _ => disk.target? handle.path = some loc
  | _ => False

/-- what an event adds to the file at a location: a line that was added through a handle that leads there -/
def added (disk : Disk) (loc : Location) : Event → Bytes
  | .appending handle text (.ok ()) =>
    if disk.target? handle.path = some loc then Record.lineBytes text else []
  | _ => []

end Event

variable {σ : Type}

/-- the events of a trace, each with the world in which it happens -/
def Services.moments (services : Services σ) : σ → List Event → List (σ × Event)
  | _, [] => []
  | world, event :: later => (world, event) :: moments services (services.after world event) later

/-- what is added to the file at a location at some moments, first one first -/
def addedAt (disk : σ → Disk) (loc : Location) (moments : List (σ × Event)) : Bytes :=
  moments.flatMap fun (world, event) => event.added (disk world) loc

/-! ## What is assumed of the outside -/

/-- lines are filed on a disk -/
structure Filing (services : Services σ) (disk : σ → Disk) : Prop where
  /-- an append that succeeds does what it does to the disk -/
  appended : ∀ handle text world, (services.appendLine handle text world).1 = .ok () →
    (Record.appendLine handle text (disk world)).1 = .ok () ∧
      ∀ loc, (disk (services.appendLine handle text world).2).node? loc =
        (Record.appendLine handle text (disk world)).2.node? loc
  /-- an append that fails writes no bytes, and leaves every file alone but its own -/
  failed : ∀ handle text world fault, (services.appendLine handle text world).1 = .error fault → ∀ loc,
    (disk (services.appendLine handle text world).2).bytes loc = (disk world).bytes loc ∧
      ((disk world).target? handle.path ≠ some loc →
        (disk (services.appendLine handle text world).2).node? loc = (disk world).node? loc)

/-- the collector does not touch the file at a location at some moments -/
def Spared (services : Services σ) (disk : σ → Disk) (loc : Location) (moments : List (σ × Event)) : Prop :=
  ∀ moment ∈ moments, moment.2.isOpening = true ∨ moment.2.isSubmission = true →
    (disk (services.after moment.1 moment.2)).node? loc = (disk moment.1).node? loc

/-! ## What events do to the records -/

variable {services : Services σ} {disk : σ → Disk} {loc : Location} {world : σ}

/-- an event that addresses another file leaves this one alone -/
theorem kept_after (filing : Filing services disk) {event : Event} (spared : Spared services disk loc [(world, event)])
    (answers : services.Answers world event) (other : ¬ event.Addresses (disk world) loc) :
    (disk (services.after world event)).node? loc = (disk world).node? loc := by
  have mem : (world, event) ∈ [(world, event)] := List.mem_singleton_self _
  cases event with
  | opening result => exact spared _ mem (Or.inl rfl)
  | submission handle status ttl result => exact spared _ mem (Or.inr rfl)
  | logged entry => rfl
  | appending handle text result =>
    cases result with
    | ok =>
      obtain ⟨done, same⟩ := filing.appended handle text world answers
      exact (same loc).trans (Disk.node?_append done other)
    | error fault => exact (filing.failed handle text world fault answers loc).2 other

/-- an event adds to a file what it tells -/
theorem added_after (filing : Filing services disk) {event : Event} (spared : Spared services disk loc [(world, event)])
    (answers : services.Answers world event) :
    (disk (services.after world event)).bytes loc = (disk world).bytes loc ++ event.added (disk world) loc := by
  by_cases other : event.Addresses (disk world) loc
  · cases event with
    | appending handle text result =>
      cases result with
      | ok =>
        obtain ⟨done, same⟩ := filing.appended handle text world answers
        exact (Disk.bytes_of_node? (same loc)).trans (Disk.bytes_append done loc)
      | error fault =>
        exact (filing.failed handle text world fault answers loc).1.trans (List.append_nil _).symm
    | _ => cases other
  · have nothing : event.added (disk world) loc = [] := by
      cases event with
      | appending handle text result =>
        cases result with
        | ok => exact if_neg other
        | error fault => rfl
      | _ => rfl
    rw [nothing, List.append_nil]
    exact Disk.bytes_of_node? (kept_after filing spared answers other)

theorem added_replay (filing : Filing services disk) {trace : List Event}
    (spared : Spared services disk loc (services.moments world trace)) (answers : services.AnswersAll world trace) :
    (disk (services.replay world trace)).bytes loc =
      (disk world).bytes loc ++ addedAt disk loc (services.moments world trace) := by
  induction trace generalizing world with
  | nil => exact (List.append_nil _).symm
  | cons event trace ih =>
    obtain ⟨first, rest⟩ := List.forall_mem_cons.1 spared
    have head := added_after filing (List.forall_mem_singleton.2 first) answers.1
    calc (disk (services.replay world (event :: trace))).bytes loc
        = (disk (services.after world event)).bytes loc ++
            addedAt disk loc (services.moments (services.after world event) trace) := ih rest answers.2
      _ = (disk world).bytes loc ++ (event.added (disk world) loc ++
            addedAt disk loc (services.moments (services.after world event) trace)) := by
          rw [head, List.append_assoc]
      _ = (disk world).bytes loc ++ addedAt disk loc (services.moments world (event :: trace)) := rfl

theorem kept_replay (filing : Filing services disk) {trace : List Event}
    (spared : Spared services disk loc (services.moments world trace)) (answers : services.AnswersAll world trace)
    (other : ∀ moment ∈ services.moments world trace, ¬ moment.2.Addresses (disk moment.1) loc) :
    (disk (services.replay world trace)).node? loc = (disk world).node? loc := by
  induction trace generalizing world with
  | nil => rfl
  | cons event trace ih =>
    obtain ⟨first, rest⟩ := List.forall_mem_cons.1 spared
    obtain ⟨hfirst, hrest⟩ := List.forall_mem_cons.1 other
    have head := kept_after filing (List.forall_mem_singleton.2 first) answers.1 hfirst
    exact (ih rest answers.2 hrest).trans head

end Session

/-! ## Records on a host -/

open Session (Event Filing Services Spared addedAt)

namespace Host

/-- lines are filed on the disk of the host -/
theorem filing (c : CommandCollector) : Filing (Host.services c) Host.disk where
  appended _ _ _ h := ⟨h, fun _ => rfl⟩
  failed handle text host fault h loc := by
    have same : (Record.appendLine handle text host.disk).2 = host.disk := Disk.write_error _ _ _ fault h
    refine ⟨?_, fun _ => ?_⟩
    · exact congrArg (Disk.bytes · loc) same
    · exact congrArg (Disk.node? · loc) same

/-- a program that is run as a collector does not touch the disk -/
theorem spared (c : CommandCollector) (loc : Location) (moments : List (Host × Event)) :
    Spared (Host.services c) Host.disk loc moments := by
  intro moment _ hcall
  obtain ⟨host, event⟩ := moment
  cases event with
  | opening result => exact congrArg (Disk.node? · loc) (c.call_disk _ _ _ host)
  | submission handle status ttl result => exact congrArg (Disk.node? · loc) (c.call_disk _ _ _ host)
  | _ => simp [Event.isOpening, Event.isSubmission] at hcall

end Host

/-! ## Main results -/

variable {σ : Type}

/-- what holds of the records while moves are made at a desk where no session has begun -/
structure Desk.Recorded (services : Services σ) (disk : σ → Disk) (world : σ) (moves : List Move) : Prop where
  /-- the trace tells the truth: what each call was answered, and what became of the world -/
  answered : services.AnswersAll world ((opening world).run services moves).2
  told : ((opening world).run services moves).1.world = services.replay world ((opening world).run services moves).2
  /-- from any moment to any later one, a record that the collector does not touch in between gets the lines that are
  added through a handle that leads to it, each once, behind what it held, in the order in which they are added -/
  contents : ∀ loc before between, before ++ between <+: ((opening world).run services moves).2 →
    let start := services.replay world before
    Spared services disk loc (services.moments start between) →
      (disk (services.replay start between)).bytes loc =
        (disk start).bytes loc ++ addedAt disk loc (services.moments start between)
  /-- and if none is even tried, the record stays as it was -/
  untouched : ∀ loc before between, before ++ between <+: ((opening world).run services moves).2 →
    let start := services.replay world before
    Spared services disk loc (services.moments start between) →
      (∀ moment ∈ services.moments start between, ¬ moment.2.Addresses (disk moment.1) loc) →
        (disk (services.replay start between)).node? loc = (disk start).node? loc
  /-- a session counts the lines that it has added itself since it was made -/
  counted : ∀ i, (((opening world).run services moves).1.sessions i).appended =
    (own services i (opening world) [] moves).countP Event.hasAppended
  /-- an append gives back success exactly if it has added its line through the handle of its session -/
  returned : ∀ (desk : Desk σ) i text, (desk.step services (.append i text)).1 = .ok none ↔
    ∃ handle, (desk.sessions i).state = .opened handle ∧
      (desk.step services (.append i text)).2.2 = [.appending handle text (.ok ())]
  /-- a run is so many of its steps, so that runs which take place at the same time are moves in some order as well -/
  split : ∀ (desk : Desk σ) i lines token minutes, ∃ k, desk.run services [.run i lines token minutes] =
    desk.run services (((Session.steps lines token minutes).take k).map (.ofCall i))

/-- **Records hold what was appended.** For every disk that lines are filed on, every collector, any number of sessions
and any list of their moves. -/
theorem Desk.records_hold_lines (services : Services σ) (disk : σ → Disk) (filing : Filing services disk) (world : σ)
    (moves : List Move) : Recorded services disk world moves := by
  obtain ⟨answered, told⟩ := run_told services (opening world) moves
  have part : ∀ before between, before ++ between <+: ((opening world).run services moves).2 →
      services.AnswersAll (services.replay world before) between := by
    intro before between hp
    obtain ⟨after, ht⟩ := hp
    have all : services.AnswersAll world (before ++ between ++ after) := ht ▸ answered
    rw [services.answersAll_append, services.answersAll_append] at all
    exact all.1.2
  refine { answered := answered, told := told.symm, contents := ?contents, untouched := ?untouched,
           counted := ?counted, returned := returned_append services, split := run_split services }
  case contents =>
    intro loc before between hp start spared
    exact Session.added_replay filing spared (part before between hp)
  case untouched =>
    intro loc before between hp start spared other
    exact Session.kept_replay filing spared (part before between hp) other
  case counted =>
    intro i
    exact appended_run services (opening world) i [] moves rfl

/-- two sessions that take up one record, on a host with nothing but a root directory -/
theorem Desk.records_hold_lines_bare :
    Filing (Host.services (.ofProgram ⟨[]⟩ [])) Host.disk ∧
      ((opening Host.bare).run (Host.services (.ofProgram ⟨[]⟩ []))
          [.resume 0 ⟨"/r", by decide, by decide⟩, .resume 1 ⟨"/r", by decide, by decide⟩, .append 1 "b",
            .append 0 "a"]).1.world.disk.bytes [[0x72]] = Text.Utf8.encode "b\na\n" := by
  refine ⟨Host.filing _, ?_⟩
  have recorded := records_hold_lines (Host.services (.ofProgram ⟨[]⟩ [])) Host.disk (Host.filing _) Host.bare
    [.resume 0 ⟨"/r", by decide, by decide⟩, .resume 1 ⟨"/r", by decide, by decide⟩, .append 1 "b", .append 0 "a"]
  have contents := recorded.contents [[0x72]] [] _ List.prefix_rfl (Host.spared _ _ _)
  rw [recorded.told]
  refine contents.trans ?_
  decide +kernel

end CheckReport
