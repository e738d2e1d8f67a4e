/-
What a sweep reports, and in which form it can be written.

- `object?_eq_some_iff`: a report is written as an object exactly if its paths are texts, and the object then shows
  every path as the text form does.
- `sweepAll_gone`, `sweep_removed_eq_nil_iff`: records are reported as removed exactly if something is gone from the
  disk.
- `sweep_error`: a sweep without a report leaves the disk as it was.
- `sweep_levels`: it warns of every failure that it counts.
-/
import CheckReport.Proofs.Sweep.Expired
import CheckReport.Proofs.Text.Utf8

namespace CheckReport

/-! ## Paths that are texts -/

namespace Path

/-- a path whose bytes are those of a text -/
def IsText (path : Path) : Prop := ∃ text, path = .ofString text

theorem display_ofString (text : String) : (ofString text).display = text := Text.Utf8.lossy_encode text

theorem text?_eq_some_iff (path : Path) (text : String) : path.text? = some text ↔ path = .ofString text := by
  have sameBytes : path = .ofString text ↔ path.bytes = Text.Utf8.encode text := by
    cases path
    simp only [ofString, mk.injEq]
  rw [sameBytes, text?, Text.Utf8.decode?_eq_some_iff]

/-- the text of a path is what messages show of it -/
theorem text?_eq_some_display_iff (path : Path) (text : String) :
    path.text? = some text ↔ path.IsText ∧ text = path.display := by
  rw [text?_eq_some_iff]
  constructor
  · rintro rfl
    exact ⟨⟨text, rfl⟩, (display_ofString text).symm⟩
  · rintro ⟨⟨other, rfl⟩, rfl⟩
    rw [display_ofString]

theorem mapM_text?_eq_some_iff (paths : List Path) (texts : List String) :
    paths.mapM text? = some texts ↔ (∀ path ∈ paths, path.IsText) ∧ texts = paths.map display := by
  induction paths generalizing texts with
  | nil => simp [eq_comm]
  | cons path paths ih =>
    simp only [List.mapM_cons, Option.bind_eq_bind, Option.bind_eq_some_iff, Option.pure_def, Option.some.injEq,
      text?_eq_some_display_iff, ih, List.forall_mem_cons, List.map_cons]
    constructor
    · rintro ⟨_, ⟨first, rfl⟩, _, ⟨rest, rfl⟩, rfl⟩
      exact ⟨⟨first, rest⟩, rfl⟩
    · rintro ⟨⟨first, rest⟩, rfl⟩
      exact ⟨_, ⟨first, rfl⟩, _, ⟨rest, rfl⟩, rfl⟩

end Path

namespace Sweep

open Disk (Name)

/-! ## Reports as objects -/

namespace Report

/-- a report all of whose paths are texts -/
def IsText (report : Report) : Prop := report.dir.IsText ∧ ∀ path ∈ report.removed, path.IsText

/-- the members of a report, with paths as messages show them -/
def members (report : Report) : Text.Json.Object :=
  [("dir", .text report.dir.display), ("swept_at", .text report.sweptAt.rfc3339), ("scanned", .count report.scanned),
    ("removed", .texts (report.removed.map Path.display)), ("failed", .count report.failed)]

/-- **A report is written as an object exactly if its paths are texts.** -/
theorem object?_eq_some_iff (report : Report) (object : Text.Json.Object) :
    report.object? = some object ↔ report.IsText ∧ object = report.members := by
  unfold object? IsText
  constructor
  · intro h
    split at h
    · rename_i dir removed hdir hremoved
      obtain ⟨dirIsText, rfl⟩ := (Path.text?_eq_some_display_iff report.dir dir).1 hdir
      obtain ⟨removedAreTexts, rfl⟩ := (Path.mapM_text?_eq_some_iff report.removed removed).1 hremoved
      cases h
      exact ⟨⟨dirIsText, removedAreTexts⟩, rfl⟩
    · cases h
  · rintro ⟨⟨dirIsText, removedAreTexts⟩, rfl⟩
    have hdir := (Path.text?_eq_some_display_iff report.dir _).2 ⟨dirIsText, rfl⟩
    have hremoved := (Path.mapM_text?_eq_some_iff report.removed _).2 ⟨removedAreTexts, rfl⟩
    rw [hdir, hremoved]
    rfl

theorem object?_of_isText {report : Report} (h : report.IsText) : report.object? = some report.members :=
  (object?_eq_some_iff report report.members).2 ⟨h, rfl⟩

theorem object?_eq_none_iff (report : Report) : report.object? = none ↔ ¬ report.IsText := by
  rw [← not_iff_not, not_not]
  constructor
  · intro written
    obtain ⟨object, h⟩ := Option.ne_none_iff_exists'.1 written
    exact ((object?_eq_some_iff report object).1 h).1
  · intro h
    rw [object?_of_isText h]
    exact Option.some_ne_none _

end Report

/-! ## What is gone from a disk -/

variable {disk mid after : Disk} {dir : Path} {now : Time.Instant} {maxAge : Time.Span}

/-- something was at a place where nothing is now -/
def Gone (disk after : Disk) : Prop := ∃ loc, disk.node? loc ≠ none ∧ after.node? loc = none

theorem Gone.ne (h : Gone disk after) : after ≠ disk := by
  rintro rfl
  obtain ⟨loc, was, is_now⟩ := h
  exact was is_now

/-- what is gone stays gone -/
theorem Gone.cleared (h : Gone disk mid) (later : Cleared now maxAge mid after) : Gone disk after := by
  obtain ⟨loc, was, gone⟩ := h
  refine ⟨loc, was, ?_⟩
  rcases later.kept loc with same | ⟨gone', -⟩
  · exact same.trans gone
  · exact gone'

/-- a record is removed exactly if it is gone; any other fate changes nothing -/
theorem sweepRecord_gone (name : Name) {fate : Fate} {log : List Log.Entry}
    (h : sweepRecord (Directory.ofPath dir) now maxAge name disk = (fate, after, log)) :
    if fate = .removed then Gone disk after else after = disk := by
  have result := sweepRecord_eq (Directory.ofPath dir) now maxAge disk name
  rw [h] at result
  obtain ⟨rfl, rfl⟩ := result
  simp only [fate_eq_removed_iff]
  by_cases hdue : look (Directory.ofPath dir) now maxAge disk name = .due
  · simp only [hdue, true_and, if_true, grip_eq_taken_iff]
    change if (disk.remove (dir.join ⟨name⟩)).1 = .ok () then Gone disk (disk.remove (dir.join ⟨name⟩)).2 else
      (disk.remove (dir.join ⟨name⟩)).2 = disk
    cases hr : (disk.remove (dir.join ⟨name⟩)).1 with
    | error fault =>
      rw [if_neg (by simp)]
      exact Disk.remove_error disk _ fault hr
    | ok =>
      rw [if_pos rfl]
      obtain ⟨place, node, hfound, hafter⟩ := Disk.remove_ok hr
      refine ⟨place, ?_, ?_⟩
      · rw [Disk.node?_of_lookup hfound]
        exact Option.some_ne_none node
      · rw [hafter, Disk.node?_erase, if_pos rfl]
  · rw [if_neg fun h => hdue h.1, if_neg hdue]

/-- the records removed by a sweep come behind those removed before; if there is one, something is gone, and if there is
none, nothing has changed -/
theorem sweepAll_gone (dir : Path) (now : Time.Instant) (maxAge : Time.Span) (tally : Tally) (disk : Disk)
    (names : List Name) :
    ∃ removed, (sweepAll (Directory.ofPath dir) now maxAge tally disk names).1.removed = tally.removed ++ removed ∧
      if removed = [] then (sweepAll (Directory.ofPath dir) now maxAge tally disk names).2.1 = disk
      else Gone disk (sweepAll (Directory.ofPath dir) now maxAge tally disk names).2.1 := by
  induction names generalizing tally disk with
  | nil => exact ⟨[], (List.append_nil _).symm, by simp [sweepAll]⟩
  | cons name names ih =>
    rcases hstep : sweepRecord (Directory.ofPath dir) now maxAge name disk with ⟨fate, mid, log⟩
    have first := sweepRecord_gone name hstep
    obtain ⟨removed, hremoved, rest⟩ := ih (tally.add name fate) mid
    have step := @sweepRecord_cleared dir now maxAge
    have kept := sweepAll_keeps now maxAge Cleared.refl (fun _ _ _ => Cleared.trans) step (tally.add name fate) mid names
    rw [sweepAll, hstep]
    simp only
    by_cases hfate : fate = .removed
    · rw [if_pos hfate] at first
      refine ⟨name :: removed, ?_, ?_⟩
      · rw [hremoved, hfate]
        simp [Tally.add]
      · rw [if_neg (List.cons_ne_nil _ _)]
        exact first.cleared kept
    · rw [if_neg hfate] at first
      refine ⟨removed, ?_, ?_⟩
      · rw [hremoved]
        cases fate <;> first | rfl | exact absurd rfl hfate
      · rwa [first] at rest ⊢

/-! ## Whole sweeps -/

/-- a sweep that cannot list the directory, one that finds none, and one that goes through the entries -/
theorem sweep_cases (dir : Path) (maxAge : Time.Span) (disk : Disk) :
    (∃ e, sweep dir maxAge disk = (.error e, disk, [])) ∨
    sweep dir maxAge disk = (.ok (.ofTally dir disk.now .empty), disk, []) ∨
    ∃ names summary, sweep dir maxAge disk =
      (.ok (.ofTally dir disk.now (sweepAll (Directory.ofPath dir) disk.now maxAge .empty disk names).1),
        (sweepAll (Directory.ofPath dir) disk.now maxAge .empty disk names).2.1,
        (sweepAll (Directory.ofPath dir) disk.now maxAge .empty disk names).2.2 ++ [Log.info summary]) := by
  cases hlist : disk.list dir with
  | ok names =>
    refine Or.inr (Or.inr ⟨names.filter isRecord, ?_⟩)
    rw [sweep, sweepNames, Directory.ofPath_list_ok hlist]
    exact ⟨_, rfl⟩
  | error fault =>
    by_cases absent : fault = .notFound
    · rw [absent] at hlist
      refine Or.inr (Or.inl ?_)
      rw [sweep, sweepNames_absent disk.now maxAge (Directory.ofPath_list_error hlist)]
    · refine Or.inl ⟨.file fault, ?_⟩
      rw [sweep, sweepNames_refused disk.now maxAge absent (Directory.ofPath_list_error hlist)]

/-- **A sweep without a report leaves the disk as it was.** -/
theorem sweep_error {e : Error} {log : List Log.Entry} (h : sweep dir maxAge disk = (.error e, after, log)) :
    after = disk ∧ log = [] := by
  rcases sweep_cases dir maxAge disk with ⟨e', failed⟩ | absent | ⟨names, summary, swept⟩
  · rw [failed] at h
    cases h
    exact ⟨rfl, rfl⟩
  · rw [absent] at h
    cases h
  · rw [swept] at h
    cases h

/-- **A sweep warns as often as its report counts failures.** -/
theorem sweep_levels {report : Report} {log : List Log.Entry}
    (h : sweep dir maxAge disk = (.ok report, after, log)) : (Log.levels log).count .warn = report.failed := by
  rcases sweep_cases dir maxAge disk with ⟨e, failed⟩ | absent | ⟨names, summary, swept⟩
  · rw [failed] at h
    cases h
  · rw [absent] at h
    cases h
    rfl
  · rw [swept] at h
    cases h
    have warned : Log.levels (sweepAll (Directory.ofPath dir) disk.now maxAge .empty disk names).2.2 =
        List.replicate (sweepAll (Directory.ofPath dir) disk.now maxAge .empty disk names).1.failed .warn :=
      sweepAll_levels disk.now maxAge .empty disk names
    rw [Log.levels_append, List.count_append, warned, List.count_replicate_self]
    rfl

/-- **No record is reported as removed exactly if the disk is as it was.** -/
theorem sweep_removed_eq_nil_iff {report : Report} {log : List Log.Entry}
    (h : sweep dir maxAge disk = (.ok report, after, log)) : report.removed = [] ↔ after = disk := by
  rcases sweep_cases dir maxAge disk with ⟨e, failed⟩ | absent | ⟨names, summary, swept⟩
  · rw [failed] at h
    cases h
  · rw [absent] at h
    cases h
    exact iff_of_true rfl rfl
  · rw [swept] at h
    cases h
    obtain ⟨removed, hremoved, outcome⟩ := sweepAll_gone dir disk.now maxAge .empty disk names
    rw [Report.ofTally, List.map_eq_nil_iff, hremoved, Tally.empty, List.nil_append]
    by_cases idle : removed = []
    · rw [if_pos idle] at outcome
      exact iff_of_true idle outcome
    · rw [if_neg idle] at outcome
      exact iff_of_false idle outcome.ne

end Sweep

end CheckReport
