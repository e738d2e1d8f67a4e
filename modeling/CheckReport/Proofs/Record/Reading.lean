/-
Lines that are read back.

Reading cuts a record at its line feeds, whoever put them there, and takes a carriage return off the end of each line.
Appending puts a line feed behind a text, and asks neither how the record ends nor what the text holds. So a text comes
back as it was exactly if it is one line that does not end in a carriage return, and if it did not go on with a line that
was open before.

- `appendLines_filed`: the bytes that appends add, and where.
- `appendLine_reads`: what one append makes of a record.
- `readText_appendLines`: what any number of them makes of it.
- `appended_lines_read_back`: the lines that are read then.
-/
import CheckReport.Record.File
import CheckReport.Proofs.Disk.Reading
import CheckReport.Proofs.Text.Parts

namespace CheckReport.Record

open Disk (Fault)
open Text (IsClosed closedLine closedLines lines written)

/-- add texts one after the other, up to one that fails -/
def appendLines (handle : Handle) : List String → Disk → Except Fault Unit × Disk
  | [], disk => (.ok (), disk)
  | text :: later, disk =>
    match appendLine handle text disk with
    | (.ok (), added) => appendLines handle later added
    | (.error fault, kept) => (.error fault, kept)

variable {handle : Handle} {texts : List String} {disk : Disk} {record : String}

/-- appends that all succeed: the first does, and then the others -/
theorem appendLines_cons {text : String} {later : List String}
    (h : (appendLines handle (text :: later) disk).1 = .ok ()) :
    (appendLine handle text disk).1 = .ok () ∧
      appendLines handle (text :: later) disk = appendLines handle later (appendLine handle text disk).2 := by
  rw [appendLines] at h ⊢
  split at h
  · rename_i added hadd
    rw [hadd]
    exact ⟨rfl, rfl⟩
  · cases h

/-! ## The bytes of a record -/

theorem lineBytes_eq (text : String) : lineBytes text = Text.Utf8.encode (text ++ "\n") := by
  rw [Text.Utf8.encode, String.toList_append, Text.Utf8.encodeChars_append]
  rfl

/-- appends put their bytes behind those of the file to which the first of them goes, and change no other node -/
theorem appendLines_filed {loc : Disk.Location} (target : disk.target? handle.path = some loc)
    (h : (appendLines handle texts disk).1 = .ok ()) :
    (appendLines handle texts disk).2.bytes loc = disk.bytes loc ++ texts.flatMap lineBytes ∧
      ∀ other, other ≠ loc → (appendLines handle texts disk).2.node? other = disk.node? other := by
  induction texts generalizing disk with
  | nil => exact ⟨(List.append_nil _).symm, fun _ _ => rfl⟩
  | cons text later ih =>
    obtain ⟨ok, rest⟩ := appendLines_cons h
    rw [rest] at h ⊢
    obtain ⟨bytes_eq, kept⟩ := ih ((Disk.target?_append ok).trans target) h
    constructor
    · calc (appendLines handle later (appendLine handle text disk).2).2.bytes loc
          = (appendLine handle text disk).2.bytes loc ++ later.flatMap lineBytes := bytes_eq
        _ = disk.bytes loc ++ lineBytes text ++ later.flatMap lineBytes := by
            rw [appendLine, Disk.bytes_append ok, if_pos target]
        _ = disk.bytes loc ++ (text :: later).flatMap lineBytes := by rw [List.flatMap_cons, List.append_assoc]
    · intro other different
      refine (kept other different).trans ?_
      apply Disk.node?_append ok
      rw [target]
      exact fun same => different (Option.some.inj same).symm

/-- texts are appended only where a file can be written -/
theorem target?_of_appendLines (h : (appendLines handle texts disk).1 = .ok ()) (some : texts ≠ []) :
    ∃ loc, disk.target? handle.path = .some loc := by
  obtain ⟨text, later, rfl⟩ := List.exists_cons_of_ne_nil some
  obtain ⟨loc, -, target, -⟩ := Disk.append_ok (appendLines_cons h).1
  exact ⟨loc, target⟩

/-! ## The text of a record -/

/-- one append puts its text and a line feed behind the record -/
theorem appendLine_reads {text : String} (reads : disk.Reads handle.path record)
    (h : (appendLine handle text disk).1 = .ok ()) :
    (appendLine handle text disk).2.readText handle.path = .ok (record ++ (text ++ "\n")) := by
  unfold appendLine at h ⊢
  rw [lineBytes_eq] at h ⊢
  exact Disk.readText_append reads h

/-- appends put their texts behind the record, each with a line feed; a record that is missing is made by the first -/
theorem readText_appendLines (reads : disk.Reads handle.path record)
    (begun : texts = [] → disk.readText handle.path = .ok record) (h : (appendLines handle texts disk).1 = .ok ()) :
    (appendLines handle texts disk).2.readText handle.path = .ok (record ++ written texts) := by
  induction texts generalizing disk record with
  | nil => exact (begun rfl).trans (congrArg Except.ok String.append_empty.symm)
  | cons text later ih =>
    obtain ⟨ok, rest⟩ := appendLines_cons h
    have now := appendLine_reads reads ok
    rw [rest] at h ⊢
    rw [Text.written_cons, ← String.append_assoc]
    exact ih (Or.inl now) (fun _ => now) h

theorem appendLines_reads (reads : disk.Reads handle.path record) (h : (appendLines handle texts disk).1 = .ok ()) :
    (appendLines handle texts disk).2.Reads handle.path (record ++ written texts) := by
  by_cases none : texts = []
  · rw [none, written, List.map_nil, String.join_nil, String.append_empty]
    exact reads
  · exact Or.inl (readText_appendLines reads (fun h => absurd h none) h)

/-! ## Its lines -/

/-- how a record and the texts that were appended to it are read -/
structure ReadBack (record : String) (texts : List String) (answer : Except Fault (List String)) : Prop where
  /-- behind a closed record: its lines, and then for each text its parts, without a carriage return at their ends -/
  closed : IsClosed record → answer = .ok (lines record ++ texts.flatMap closedLines)
  /-- behind an open line: the first part of the first text goes on with it, and all else is read as behind a closed
  record -/
  opened : ¬ IsClosed record → ∃ front rest, record = front ++ rest ∧ IsClosed front ∧ rest ≠ "" ∧ '\n' ∉ rest.toList ∧
    ∀ text later, texts = text :: later → ∃ part parts, text.toList.splitOn '\n' = part :: parts ∧
      answer = .ok (lines front ++ (closedLine (rest.toList ++ part) :: parts.map closedLine) ++
        later.flatMap closedLines)
  /-- a record to which nothing was appended is read as it is -/
  idle : texts = [] → answer = .ok (lines record)
  /-- an empty record gives the texts as they were, exactly if each is one line without a carriage return at its end -/
  exact : record = "" → (answer = .ok texts ↔ ∀ text ∈ texts, '\n' ∉ text.toList ∧ text.toList.getLast? ≠ some '\r')

theorem readBack_of_text (record : String) (texts : List String) :
    ReadBack record texts (.ok (lines (record ++ written texts))) where
  closed h := congrArg Except.ok (Text.lines_append_written h texts)
  opened unfinished := by
    obtain ⟨front, rest, rfl, closed, single⟩ := Text.exists_open_line record
    refine ⟨front, rest, rfl, closed, ?_, single, ?_⟩
    · rintro rfl
      rw [String.append_empty] at unfinished
      exact unfinished closed
    · rintro text later rfl
      obtain ⟨part, parts, hsplit⟩ := List.exists_cons_of_ne_nil (List.splitOn_ne_nil '\n' text.toList)
      refine ⟨part, parts, hsplit, ?_⟩
      rw [Text.lines_append_written_cons closed, Text.closedLines_append single hsplit]
  idle none := by
    rw [none, written, List.map_nil, String.join_nil, String.append_empty]
  exact := by
    rintro rfl
    rw [Text.lines_append_written (Or.inl rfl), Except.ok.injEq]
    exact Text.flatMap_closedLines_eq_self_iff texts

/-- **Appended lines are read back** as the parts of the texts, for every record and every list of texts. -/
theorem appended_lines_read_back (reads : disk.Reads handle.path record)
    (begun : texts = [] → disk.readText handle.path = .ok record) (h : (appendLines handle texts disk).1 = .ok ()) :
    ReadBack record texts (readLines handle (appendLines handle texts disk).2) := by
  rw [readLines, readText_appendLines reads begun h]
  exact readBack_of_text record texts

/-- a disk with a record whose last line is open -/
def unfinishedRecord : Disk :=
  let file : Disk.Node := ⟨.file (Text.Utf8.encode "a\r\nb\r"), .newFile, ⟨0, 0⟩, ⟨0⟩⟩
  ⟨⟨some ⟨.directory, .newDirectory, ⟨0, 0⟩, ⟨0⟩⟩, .cons [0x72] (some file) .empty .empty⟩, [], ⟨0, 0⟩, ⟨0⟩⟩

/-- texts with line feeds and carriage returns behind an open line that ends in one -/
theorem appended_lines_read_back_unfinished :
    let handle : Handle := ⟨"/r", by decide, by decide⟩
    let texts := ["c\r\n\rd", "", "e\r"]
    unfinishedRecord.readText handle.path = .ok "a\r\nb\r" ∧
      (appendLines handle texts unfinishedRecord).1 = .ok () ∧
      ReadBack "a\r\nb\r" texts (.ok ["a", "b\rc", "\rd", "", "e"]) := by
  intro handle texts
  have read : unfinishedRecord.readText handle.path = .ok "a\r\nb\r" := by decide +kernel
  have appended : (appendLines handle texts unfinishedRecord).1 = .ok () := by decide +kernel
  have answer : readLines handle (appendLines handle texts unfinishedRecord).2 = .ok ["a", "b\rc", "\rd", "", "e"] := by
    decide +kernel
  have back := appended_lines_read_back (Or.inl read) (fun _ => read) appended
  exact ⟨read, appended, answer ▸ back⟩

end CheckReport.Record
