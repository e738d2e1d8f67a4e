/-
Records that are in use while others sweep.

Sessions add lines to records, time passes, and now and then a directory is swept, each time with a bound of its own.
A record keeps the time of its newest line (`Stamped`), so that a sweep which takes it away finds every line at least
as old as the bound.

- `Upkeep.becomes`: all that can become of a record when one thing happens.
- `Upkeep.lasts_concat`: one more thing that happens keeps the accounts of a record.
- `Host.site`, `Host.undisturbed`: a host whose collector is a program is as assumed, for every record.
- `Desk.lines_outlast_sweeps`: at every moment a record holds the lines since the last sweep that took it away, and no
  sweep takes a line away that is younger than its bound.
-/
import Mathlib.Data.List.DropRight
import CheckReport.Proofs.Session.Records
import CheckReport.Proofs.Session.Turns
import CheckReport.Proofs.Sweep.Expired

namespace CheckReport

open Disk (Location Node)
open Session (Event Filing Services)
open Text.Utf8 (Bytes)

/-! ## Time and sweeps -/

/-- the disk some time later -/
def Disk.later (disk : Disk) (span : Time.Span) : Disk := { disk with now := ⟨disk.now.nanos + span.nanos⟩ }

/-- what happens to a disk besides the calls of sessions -/
inductive Upkeep where
  | wait (span : Time.Span)
  | sweep (dir : Path) (maxAge : Time.Span)

namespace Upkeep

def onDisk (disk : Disk) : Upkeep → Disk
  | .wait span => disk.later span
  | .sweep dir maxAge => (Sweep.sweep dir maxAge disk).2.1

/-- the same in a world that holds a disk as one part -/
def within {σ : Type} (disk : σ → Disk) (put : σ → Disk → σ) (upkeep : Upkeep) (world : σ) : σ :=
  put world (upkeep.onDisk (disk world))

/-! ## What is told of one record -/

section Told

variable {σ : Type} (disk : σ → Disk) (loc : Location)

/-- a line is added to the record at a location -/
def Adds : σ × Happening Upkeep → Prop
  | (world, .event (.appending handle _ (.ok ()))) => (disk world).target? handle.path = some loc
  | _ => False

/-- a sweep takes the record at a location away -/
def removes : σ × Happening Upkeep → Bool
  | (world, .change (.sweep dir maxAge)) =>
    ((disk world).node? loc).isSome && ((Sweep.sweep dir maxAge (disk world)).2.1.node? loc).isNone
  | _ => false

/-- what something that happens adds to the record at a location -/
def addedBy : σ × Happening Upkeep → Bytes
  | (world, .event event) => event.added (disk world) loc
  | _ => []

end Told

/-! ## What is assumed of the outside -/

variable {σ : Type} (services : Services σ) (disk : σ → Disk) (put : σ → Disk → σ)

/-- lines are filed on a disk that can be changed in place, and no call turns its clock back -/
structure Site : Prop where
  filing : Filing services disk
  disk_put : ∀ world changed, disk (put world changed) = changed
  forward : ∀ world event, (disk world).now.nanos ≤ (disk (services.after world event)).now.nanos

/-- at some moments, nothing touches the record at a location but sweeps and appends that succeed -/
def Undisturbed (loc : Location) (moments : List (σ × Happening Upkeep)) : Prop :=
  ∀ moment ∈ moments, ∀ event, moment.2 = .event event → event.hasAppended = false →
    (disk (services.after moment.1 event)).node? loc = (disk moment.1).node? loc

/-! ## Accounts of a record -/

/-- the moments of a timeline on a disk that is swept -/
abbrev momentsOf (world : σ) (timeline : List (Happening Upkeep)) : List (σ × Happening Upkeep) :=
  Timeline.moments services (Upkeep.within disk put) world timeline

/-- the world behind it -/
abbrev behind (world : σ) (timeline : List (Happening Upkeep)) : σ :=
  Timeline.replay services (Upkeep.within disk put) world timeline

/-- what a record should hold behind some moments: the lines since it was last taken away -/
def expected (loc : Location) (initial : Bytes) (moments : List (σ × Happening Upkeep)) : Bytes :=
  (if moments.any (removes disk loc) then [] else initial) ++
    (moments.rtakeWhile fun moment => !removes disk loc moment).flatMap (addedBy disk loc)

/-- what holds of a record behind a timeline -/
structure Lasts (loc : Location) (world : σ) (past : List (Happening Upkeep)) : Prop where
  bytes_eq : (disk (behind services disk put world past)).bytes loc =
    expected disk loc ((disk world).bytes loc) (momentsOf services disk put world past)
  /-- the clock has not been turned back since any line was added -/
  passed : ∀ moment ∈ momentsOf services disk put world past, Adds disk loc moment →
    (disk moment.1).now.nanos ≤ (disk (behind services disk put world past)).now.nanos
  /-- the record, if it is there, was changed when the newest line was added, or later -/
  stamped : ∀ node, (disk (behind services disk put world past)).node? loc = some node →
    ∀ moment ∈ momentsOf services disk put world past, Adds disk loc moment →
      (disk moment.1).now.nanos ≤ node.modified.nanos

variable {services disk put} {loc : Location} {world : σ}

theorem expected_concat_kept {initial : Bytes} {moments : List (σ × Happening Upkeep)} {last : σ × Happening Upkeep}
    (h : removes disk loc last = false) :
    expected disk loc initial (moments ++ [last]) = expected disk loc initial moments ++ addedBy disk loc last := by
  have same : (moments ++ [last]).any (removes disk loc) = moments.any (removes disk loc) := by simp [h]
  unfold expected
  rw [List.rtakeWhile_concat_pos _ _ _ (by simp [h]), same, List.flatMap_append, List.append_assoc,
    List.flatMap_singleton]

theorem expected_concat_removed {initial : Bytes} {moments : List (σ × Happening Upkeep)}
    {last : σ × Happening Upkeep} (h : removes disk loc last = true) :
    expected disk loc initial (moments ++ [last]) = [] := by
  have some : (moments ++ [last]).any (removes disk loc) = true := by simp [h]
  unfold expected
  rw [List.rtakeWhile_concat_neg _ _ _ (by simp [h]), some]
  rfl

/-! ## One thing that happens -/

/-- a sweep that takes a record away has found it as old as its bound, or older -/
theorem due_of_removes {dir : Path} {maxAge : Time.Span}
    (h : removes disk loc (world, .change (.sweep dir maxAge)) = true) :
    ∃ node, (disk world).node? loc = some node ∧
      (maxAge.nanos : ℤ) ≤ Sweep.age (disk world).now node.modified := by
  rw [removes, Bool.and_eq_true, Option.isNone_iff_eq_none] at h
  obtain ⟨there, gone⟩ := h
  rcases (Sweep.sweep_cleared dir maxAge (disk world)).kept loc with same | ⟨-, node, hn, -, hage⟩
  · rw [← same, gone] at there
    cases there
  · exact ⟨node, hn, hage⟩

/-- a sweep that does not take a record away leaves it as it is -/
theorem kept_of_not_removes {dir : Path} {maxAge : Time.Span}
    (h : removes disk loc (world, .change (.sweep dir maxAge)) = false) :
    (Sweep.sweep dir maxAge (disk world)).2.1.node? loc = (disk world).node? loc := by
  rcases (Sweep.sweep_cleared dir maxAge (disk world)).kept loc with same | ⟨gone, node, hn, -⟩
  · exact same
  · rw [removes, hn, gone] at h
    cases h

/-- what becomes of a record when something happens -/
inductive Becomes (disk : σ → Disk) (loc : Location) (moment : σ × Happening Upkeep) (after : σ) : Prop where
  /-- a line is added to it, and it was changed just now -/
  | added (stays : removes disk loc moment = false)
    (bytes_eq : (disk after).bytes loc = (disk moment.1).bytes loc ++ addedBy disk loc moment) {node : Node}
    (there : (disk after).node? loc = some node) (now : node.modified = (disk moment.1).now)
  /-- it stays as it is -/
  | kept (stays : removes disk loc moment = false) (other : ¬ Adds disk loc moment)
    (nothing : addedBy disk loc moment = []) (same : (disk after).node? loc = (disk moment.1).node? loc)
  /-- a sweep takes it away -/
  | removed (goes : removes disk loc moment = true) (other : ¬ Adds disk loc moment)
    (gone : (disk after).node? loc = none)

theorem Site.disk_within (site : Site services disk put) (what : Upkeep) :
    disk (what.within disk put world) = what.onDisk (disk world) := site.disk_put world _

theorem becomes_of_change (site : Site services disk put) (what : Upkeep) :
    Becomes disk loc (world, .change what) (what.within disk put world) := by
  cases what with
  | wait span =>
    refine .kept rfl id rfl ?_
    rw [site.disk_within]
    rfl
  | sweep dir maxAge =>
    cases h : removes disk loc (world, .change (.sweep dir maxAge)) with
    | false =>
      refine .kept h id rfl ?_
      rw [site.disk_within]
      exact kept_of_not_removes h
    | true =>
      refine .removed h id ?_
      rw [site.disk_within]
      rw [removes, Bool.and_eq_true, Option.isNone_iff_eq_none] at h
      exact h.2

theorem not_adds {event : Event} (h : event.hasAppended = false) :
    ¬ Adds disk loc (world, .event event) ∧ addedBy disk loc (world, .event event) = [] := by
  cases event with
  | appending handle text result =>
    cases result with
    | ok => cases h
    | error fault => exact ⟨id, rfl⟩
  | _ => exact ⟨id, rfl⟩

theorem becomes_of_appending (filing : Filing services disk) {handle : Handle} {text : String}
    (answers : services.Answers world (.appending handle text (.ok ()))) :
    Becomes disk loc (world, .event (.appending handle text (.ok ())))
      (services.after world (.appending handle text (.ok ()))) := by
  obtain ⟨done, same⟩ := filing.appended handle text world answers
  by_cases own : (disk world).target? handle.path = some loc
  · obtain ⟨node, there, now⟩ := Disk.modified_append done own
    have bytes_eq := (Disk.bytes_of_node? (same loc)).trans (Disk.bytes_append done loc)
    exact .added rfl bytes_eq ((same loc).trans there) now
  · exact .kept rfl own (if_neg own) ((same loc).trans (Disk.node?_append done own))

theorem becomes_of_event (site : Site services disk put) {event : Event} (answers : services.Answers world event)
    (undisturbed : Undisturbed services disk loc [(world, .event event)]) :
    Becomes disk loc (world, .event event) (services.after world event) := by
  cases appended : event.hasAppended with
  | false =>
    have plain : ¬ Adds disk loc (world, .event event) ∧ addedBy disk loc (world, .event event) = [] := not_adds appended
    exact .kept rfl plain.1 plain.2 (undisturbed _ (List.mem_singleton_self _) event rfl appended)
  | true =>
    cases event with
    | appending handle text result =>
      cases result with
      | ok => exact becomes_of_appending site.filing answers
      | error fault => cases appended
    | _ => cases appended

/-- **All that can become of a record.** -/
theorem becomes (site : Site services disk put) {happening : Happening Upkeep}
    (answers : happening.Answers services world) (undisturbed : Undisturbed services disk loc [(world, happening)]) :
    Becomes disk loc (world, happening) (happening.after services (Upkeep.within disk put) world) := by
  cases happening with
  | change what => exact becomes_of_change site what
  | event event => exact becomes_of_event site answers undisturbed

/-- whatever happens, the clock goes on -/
theorem onward (site : Site services disk put) (happening : Happening Upkeep) :
    (disk world).now.nanos ≤ (disk (happening.after services (Upkeep.within disk put) world)).now.nanos := by
  cases happening with
  | event event => exact site.forward world event
  | change what =>
    change (disk world).now.nanos ≤ (disk (what.within disk put world)).now.nanos
    rw [site.disk_within]
    cases what with
    | wait span => exact Int.le_add_of_nonneg_right (Int.natCast_nonneg _)
    | sweep dir maxAge =>
      have cleared := Sweep.sweep_cleared dir maxAge (disk world)
      exact le_of_eq (congrArg Time.Instant.nanos cleared.now_eq.symm)

/-! ## Whole timelines -/

theorem lasts_concat (site : Site services disk put) {past : List (Happening Upkeep)} {last : Happening Upkeep}
    (answers : last.Answers services (behind services disk put world past))
    (undisturbed : Undisturbed services disk loc [(behind services disk put world past, last)])
    (lasts : Lasts services disk put loc world past) : Lasts services disk put loc world (past ++ [last]) := by
  have reached : behind services disk put world (past ++ [last]) =
      last.after services (Upkeep.within disk put) (behind services disk put world past) :=
    Timeline.replay_append ..
  have moments := Timeline.moments_concat services (Upkeep.within disk put) world past last
  have fate := becomes site answers undisturbed
  -- the newest moment is the present one
  have passed : ∀ moment ∈ momentsOf services disk put world (past ++ [last]), Adds disk loc moment →
      (disk moment.1).now.nanos ≤ (disk (behind services disk put world past)).now.nanos := by
    intro moment hm hadds
    rw [momentsOf, moments, List.mem_append, List.mem_singleton] at hm
    rcases hm with hm | rfl
    · exact lasts.passed moment hm hadds
    · exact le_rfl
  refine ⟨?bytes_eq, ?passed, ?stamped⟩
  case bytes_eq =>
    rw [reached, momentsOf, moments]
    cases fate with
    | added stays bytes_eq => rw [expected_concat_kept stays, bytes_eq, lasts.bytes_eq]
    | kept stays other nothing same =>
      rw [expected_concat_kept stays, nothing, List.append_nil, Disk.bytes_of_node? same, lasts.bytes_eq]
    | removed goes other gone =>
      rw [expected_concat_removed goes, Disk.bytes, gone]
      rfl
  case passed =>
    intro moment hm hadds
    rw [reached]
    exact (passed moment hm hadds).trans (onward site last)
  case stamped =>
    intro node hn moment hm hadds
    rw [reached] at hn
    cases fate with
    | added stays bytes_eq there now =>
      rw [there] at hn
      cases hn
      rw [now]
      exact passed moment hm hadds
    | kept stays other nothing same =>
      rw [momentsOf, moments, List.mem_append, List.mem_singleton] at hm
      rcases hm with hm | rfl
      · exact lasts.stamped node (same.symm.trans hn) moment hm hadds
      · exact absurd hadds other
    | removed goes other gone =>
      rw [gone] at hn
      cases hn

theorem lasts (site : Site services disk put) {timeline : List (Happening Upkeep)}
    (told : Timeline.Told services (Upkeep.within disk put) world timeline)
    (undisturbed : Undisturbed services disk loc (momentsOf services disk put world timeline)) :
    Lasts services disk put loc world timeline := by
  induction timeline using List.reverseRecOn with
  | nil =>
    exact ⟨(List.append_nil _).symm, fun _ h => (List.not_mem_nil h).elim, fun _ _ _ h => (List.not_mem_nil h).elim⟩
  | append_singleton past last ih =>
    have moments := Timeline.moments_concat services (Upkeep.within disk put) world past last
    rw [momentsOf, moments] at undisturbed
    rw [Timeline.Told, moments] at told
    obtain ⟨toldPast, toldLast⟩ := List.forall_mem_append.1 told
    obtain ⟨quietPast, quietLast⟩ := List.forall_mem_append.1 undisturbed
    exact lasts_concat site (toldLast _ (List.mem_singleton_self _)) quietLast (ih toldPast quietPast)

/-- a sweep that takes a record away finds every line at least as old as its bound -/
theorem old_of_removes {past : List (Happening Upkeep)} (account : Lasts services disk put loc world past) {dir : Path}
    {maxAge : Time.Span}
    (h : removes disk loc (behind services disk put world past, .change (.sweep dir maxAge)) = true)
    {moment : σ × Happening Upkeep} (hm : moment ∈ momentsOf services disk put world past)
    (adds : Adds disk loc moment) :
    (maxAge.nanos : ℤ) ≤ (disk (behind services disk put world past)).now.nanos - (disk moment.1).now.nanos := by
  obtain ⟨node, hn, hage⟩ := due_of_removes h
  have stamped := account.stamped node hn moment hm adds
  have passed := account.passed moment hm adds
  unfold Sweep.age at hage
  omega

end Upkeep

open Upkeep

/-! ## Records on a host -/

namespace Host

/-- the disk of a host is changed in place -/
def withDisk (host : Host) (disk : Disk) : Host := { host with disk := disk }

theorem after_disk (c : CommandCollector) (host : Host) {event : Event} (h : event.hasAppended = false)
    (answers : (Host.services c).Answers host event) : ((Host.services c).after host event).disk = host.disk := by
  cases event with
  | opening result => exact c.call_disk _ _ _ host
  | submission handle status ttl result => exact c.call_disk _ _ _ host
  | logged entry => rfl
  | appending handle text result =>
    cases result with
    | ok => cases h
    | error fault => exact Disk.write_error _ _ _ fault answers

theorem append_now (disk : Disk) (path : Path) (data : Bytes) : (disk.append path data).2.now = disk.now := by
  cases h : (disk.append path data).1 with
  | error fault => rw [Disk.append, Disk.write_error disk path _ fault h]
  | ok =>
    obtain ⟨loc, node, -, -, -, hput⟩ := Disk.append_ok h
    rw [hput]
    rfl

theorem site (c : CommandCollector) : Site (Host.services c) Host.disk withDisk where
  filing := filing c
  disk_put _ _ := rfl
  forward host event := by
    have same : ((Host.services c).after host event).disk.now = host.disk.now := by
      cases event with
      | opening result => exact congrArg Disk.now (c.call_disk _ _ _ host)
      | submission handle status ttl result => exact congrArg Disk.now (c.call_disk _ _ _ host)
      | logged entry => rfl
      | appending handle text result => exact append_now host.disk handle.path (Record.lineBytes text)
    exact le_of_eq (congrArg Time.Instant.nanos same.symm)

/-- nothing but sweeps and appends that succeed touches a disk whose collector is a program -/
theorem undisturbed (c : CommandCollector) (loc : Location) {host : Host} {timeline : List (Happening Upkeep)}
    (told : Timeline.Told (Host.services c) (Upkeep.within Host.disk withDisk) host timeline) :
    Undisturbed (Host.services c) Host.disk loc (momentsOf (Host.services c) Host.disk withDisk host timeline) := by
  intro moment hm event he none
  have answers := told moment hm
  rw [he] at answers
  exact congrArg (Disk.node? · loc) (after_disk c moment.1 none answers)

end Host

/-! ## Main result -/

/-- what holds of a record while sessions take turns, time passes and directories are swept -/
structure Desk.Outlasts (services : Services σ) (disk : σ → Disk) (put : σ → Disk → σ) (loc : Location) (desk : Desk σ)
    (turns : List (Turn Upkeep)) : Prop where
  /-- the timeline tells what became of the world -/
  told : behind services disk put desk.world (desk.turns services (Upkeep.within disk put) turns).2 =
    (desk.turns services (Upkeep.within disk put) turns).1.world
  /-- at every moment the record holds the lines that were added since the last sweep that took it away, in their order;
  if there was none, they stand behind what it held -/
  contents : ∀ past, past <+: (desk.turns services (Upkeep.within disk put) turns).2 →
    let moments := momentsOf services disk put desk.world past
    (disk (behind services disk put desk.world past)).bytes loc =
      (if moments.any (removes disk loc) then [] else (disk desk.world).bytes loc) ++
        (moments.rtakeWhile fun moment => !removes disk loc moment).flatMap (addedBy disk loc)
  /-- a sweep takes the record away only if every line added before lies at least the bound in the past -/
  aged : ∀ past dir maxAge,
    past ++ [.change (.sweep dir maxAge)] <+: (desk.turns services (Upkeep.within disk put) turns).2 →
    let world := behind services disk put desk.world past
    removes disk loc (world, .change (.sweep dir maxAge)) = true →
      ∀ moment ∈ momentsOf services disk put desk.world past, Adds disk loc moment →
        (maxAge.nanos : ℤ) ≤ (disk world).now.nanos - (disk moment.1).now.nanos
  /-- a sweep leaves the record as it is if a line was added less than the bound ago -/
  spared : ∀ past dir maxAge,
    past ++ [.change (.sweep dir maxAge)] <+: (desk.turns services (Upkeep.within disk put) turns).2 →
    let world := behind services disk put desk.world past
    (∃ moment ∈ momentsOf services disk put desk.world past, Adds disk loc moment ∧
      (disk world).now.nanos - (disk moment.1).now.nanos < maxAge.nanos) →
        (Sweep.sweep dir maxAge (disk world)).2.1.node? loc = (disk world).node? loc

/-- **No sweep takes a line away that is younger than its bound.** For every disk that lines are filed on, any sessions,
turns and sweeps, and every record that is touched by nothing else. -/
theorem Desk.lines_outlast_sweeps (services : Services σ) (disk : σ → Disk) (put : σ → Disk → σ)
    (site : Site services disk put) (desk : Desk σ) (turns : List (Turn Upkeep)) (loc : Location)
    (undisturbed : Undisturbed services disk loc
      (momentsOf services disk put desk.world (desk.turns services (Upkeep.within disk put) turns).2)) :
    Outlasts services disk put loc desk turns := by
  obtain ⟨answered, told⟩ := turns_told services (Upkeep.within disk put) desk turns
  set timeline := (desk.turns services (Upkeep.within disk put) turns).2
  have accounts : ∀ past, past <+: timeline → Lasts services disk put loc desk.world past := by
    rintro past ⟨later, h⟩
    rw [← h, momentsOf, Timeline.moments_append] at undisturbed
    rw [← h, Timeline.told_append] at answered
    exact lasts site answered.1 (List.forall_mem_append.1 undisturbed).1
  refine ⟨told, fun past hp => (accounts past hp).bytes_eq, ?aged, ?spared⟩
  case aged =>
    intro past dir maxAge hp world hr moment hm hadds
    exact old_of_removes (accounts past ((List.prefix_append past _).trans hp)) hr hm hadds
  case spared =>
    rintro past dir maxAge hp world ⟨moment, hm, hadds, young⟩
    refine kept_of_not_removes ?_
    rw [← Bool.not_eq_true]
    intro hr
    exact absurd young (not_lt.2 (old_of_removes (accounts past ((List.prefix_append past _).trans hp)) hr hm hadds))

/-- a record with two lines is swept twice with a bound of five, four and then six units after the newer line, and gets
another line then -/
def Desk.seasons : List (Turn Upkeep) :=
  let root : Path := .ofString "/"
  [.move (.resume 0 ⟨"/a.snff", by decide, by decide⟩), .move (.append 0 "old"), .change (.wait ⟨10⟩),
    .move (.append 0 "new"), .change (.wait ⟨4⟩), .change (.sweep root ⟨5⟩), .change (.wait ⟨2⟩),
    .change (.sweep root ⟨5⟩), .move (.append 0 "later")]

/-- the first sweep leaves the record alone although its older line is due, the second takes it away -/
theorem Desk.lines_outlast_sweeps_bare :
    let c := CommandCollector.ofProgram ⟨[]⟩ []
    let timeline := ((opening Host.bare).turns (Host.services c) (Upkeep.within Host.disk Host.withDisk) seasons).2
    Site (Host.services c) Host.disk Host.withDisk ∧
      Undisturbed (Host.services c) Host.disk [Text.Utf8.encode "a.snff"]
        (momentsOf (Host.services c) Host.disk Host.withDisk Host.bare timeline) ∧
      (behind (Host.services c) Host.disk Host.withDisk Host.bare (timeline.take 6)).disk.bytes
        [Text.Utf8.encode "a.snff"] = Text.Utf8.encode "old\nnew\n" ∧
      (behind (Host.services c) Host.disk Host.withDisk Host.bare timeline).disk.bytes [Text.Utf8.encode "a.snff"] =
        Text.Utf8.encode "later\n" := by
  intro c timeline
  have told := (turns_told (Host.services c) (Upkeep.within Host.disk Host.withDisk) (opening Host.bare) seasons).1
  have undisturbed := Host.undisturbed c [Text.Utf8.encode "a.snff"] told
  have outlasts := lines_outlast_sweeps (Host.services c) Host.disk Host.withDisk (Host.site c) (opening Host.bare)
    seasons [Text.Utf8.encode "a.snff"] undisturbed
  refine ⟨Host.site c, undisturbed, ?_, ?_⟩
  · refine (outlasts.contents _ (List.take_prefix 6 _)).trans ?_
    decide +kernel
  · refine (outlasts.contents _ List.prefix_rfl).trans ?_
    decide +kernel

end CheckReport
