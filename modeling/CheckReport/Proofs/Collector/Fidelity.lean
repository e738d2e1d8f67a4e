/-
How faithful the handle is to what the collector's program printed.

The handle of an opened record is read from the bytes that the program printed, and written as bytes again for the file
of the record and for every submission. The name that comes out is what was printed, without the blanks at its ends, if
the program printed text. Of bytes that are no text it never is: what cannot be read is replaced and not refused, so the
observations go to a file, and the submission names a record, that the program never spoke of.

- `trimmed_of_text`, `decode_of_trimmed`: trimming a text and trimming its bytes.
- `opened_handle_faithful_iff`: the name of an opened record is what was printed exactly if that is text.
-/
import CheckReport.Proofs.Collector.Outcomes
import CheckReport.Proofs.Text.Utf8
import CheckReport.Record.File

namespace CheckReport

open Text (isBlank trim trimChars)
open Text.Utf8 (Bytes encode encodeChar encodeChars decode lossy)

/-! ## Trimming bytes -/

/-- the name is the bytes without the blanks at their ends -/
structure Trimmed (bytes name : Bytes) : Prop where
  split : ∃ front back : List Char, front.all isBlank = true ∧ back.all isBlank = true ∧
    bytes = encodeChars front ++ name ++ encodeChars back
  first : ∀ c, isBlank c = true → ¬ encodeChar c <+: name
  last : ∀ c, isBlank c = true → ¬ encodeChar c <:+ name

/-- trimming a text trims its bytes, if anything is left -/
theorem trimmed_of_text {text : String} (left : trimChars text.toList ≠ []) :
    Trimmed (encode text) (encode (trim text)) := by
  have name : encode (trim text) = encodeChars (trimChars text.toList) := by
    rw [encode, trim, String.toList_ofList]
  rw [name]
  refine { split := ?_, first := ?_, last := ?_ }
  · obtain ⟨front, back, hf, hb, whole⟩ := Text.trimChars_split text.toList
    refine ⟨front, back, hf, hb, ?_⟩
    rw [encode, ← Text.Utf8.encodeChars_append, ← Text.Utf8.encodeChars_append, ← whole]
  · intro c blank begins
    obtain ⟨d, cs, hd⟩ := List.exists_cons_of_ne_nil left
    rw [hd] at begins
    rw [Text.Utf8.eq_of_starts begins, Text.trimChars_first hd] at blank
    cases blank
  · intro c blank ends
    obtain ⟨cs, d, hd⟩ := (List.eq_nil_or_concat' _).resolve_left left
    rw [hd] at ends
    rw [Text.Utf8.eq_of_ends ends, Text.trimChars_last hd] at blank
    cases blank

/-- bytes that are a text without the blanks at their ends are a text -/
theorem decode_of_trimmed {bytes : Bytes} {name : String} (h : Trimmed bytes (encode name)) :
    ∃ text, decode bytes = .ok text := by
  obtain ⟨front, back, -, -, whole⟩ := h.split
  refine ⟨String.ofList (front ++ name.toList ++ back), (Text.Utf8.decode_eq_ok_iff _ _).2 ?_⟩
  rw [whole, encode, encode, String.toList_ofList, Text.Utf8.encodeChars_append, Text.Utf8.encodeChars_append]

/-! ## Handles -/

/-- the file of the record has this name, and every submission names the record so -/
structure Handle.Names (handle : Handle) (name : Bytes) : Prop where
  file : ∀ line disk, Record.appendLine handle line disk = disk.append ⟨name⟩ (Record.lineBytes line)
  argument : ∀ (c : CommandCollector) status ttl,
    c.args.map encode ++ [encode "-e", encode "-f", name] <+: (c.submitArguments handle status ttl).map encode

theorem Handle.names_encode (handle : Handle) : handle.Names (encode handle.text) := by
  refine ⟨fun line disk => rfl, fun c status ttl => ?_⟩
  rw [CommandCollector.submitArguments, List.append_assoc, List.map_append]
  exact List.prefix_append_right_inj _ |>.2 ⟨_, rfl⟩

/-- a printed handle is what the whole output leaves -/
theorem Response.Prints.text_eq {response : Response} {handle : Handle} (h : response.Prints handle) :
    handle.text = trim (lossy response.stdout) := by
  obtain ⟨line, content, text⟩ := h
  rw [text, Text.trim_of_contentLines content]

namespace CommandCollector

/-- **The handle is what was printed exactly if text was printed.** -/
theorem opened_handle_faithful_iff (c : CommandCollector) (host : Host) (handle : Handle)
    (opened : (c.service.openRecord host).result = .ok handle) :
    ∃ response, (host.run c.program (c.openArguments.map encode)).1 = .ok response ∧ response.ending = .exited 0 ∧
      handle.text = trim (lossy response.stdout) ∧ handle.Names (encode handle.text) ∧
      (Trimmed response.stdout (encode handle.text) ↔ ∃ text, decode response.stdout = .ok text) := by
  obtain ⟨response, ran, ended, printed⟩ :=
    ((classified_of_verdict (openRecord_verdict c host)).ok_iff handle).1 opened
  refine ⟨response, ran, ended, printed.text_eq, handle.names_encode, decode_of_trimmed, ?_⟩
  rintro ⟨text, htext⟩
  have stdout : response.stdout = encode text := (Text.Utf8.decode_eq_ok_iff _ _).1 htext
  have name : handle.text = trim text := by rw [printed.text_eq, stdout, Text.Utf8.lossy_encode]
  rw [name, stdout]
  refine trimmed_of_text fun nothing => ?_
  have blank := handle.not_blank
  rw [name, trim, nothing] at blank
  cases blank

/-- a host with one program, which prints the given bytes and ends with 0 -/
def printingHost (printed : Bytes) : Host :=
  let name : Disk.Name := encode "c"
  let client : Disk.Node := ⟨.file [], .newDirectory, ⟨0, 0⟩, ⟨0⟩⟩
  { Host.bare with
    disk := Host.bare.disk.put [name] client
    program? := fun loc => if loc = [name] then some fun _ _ _ => .ok ⟨printed, [], .exited 0⟩ else none }

/-- a name between blanks, one of them outside of ASCII -/
theorem opened_handle_faithful_iff_blanks :
    let c := ofProgram (.ofString "/c") []
    let handle : Handle := ⟨"é r", by decide, by decide⟩
    (c.service.openRecord (printingHost (encode " é r\u3000\r\n"))).result = .ok handle ∧
      Trimmed (encode " é r\u3000\r\n") (encode handle.text) := by
  intro c handle
  have opened : (c.service.openRecord (printingHost (encode " é r\u3000\r\n"))).result = .ok handle := by
    decide +kernel
  have ran : ((printingHost (encode " é r\u3000\r\n")).run c.program (c.openArguments.map encode)).1 =
      .ok ⟨encode " é r\u3000\r\n", [], .exited 0⟩ := by decide +kernel
  obtain ⟨response, ran', -, -, -, faithful⟩ := opened_handle_faithful_iff c _ handle opened
  rw [ran] at ran'
  cases ran'
  exact ⟨opened, faithful.2 ⟨_, (Text.Utf8.decode_eq_ok_iff _ _).2 rfl⟩⟩

/-- a name that is no text is altered, and the record is opened under the altered name -/
theorem altered_name :
    let c := ofProgram (.ofString "/c") []
    let printed : Bytes := [0x72, 0xFF, 0x0A]
    let handle : Handle := ⟨"r\uFFFD", by decide, by decide⟩
    ((printingHost printed).run c.program (c.openArguments.map encode)).1 = .ok ⟨printed, [], .exited 0⟩ ∧
      (c.service.openRecord (printingHost printed)).result = .ok handle ∧
      handle.Names (encode handle.text) ∧ ¬ Trimmed printed (encode handle.text) := by
  intro c printed handle
  refine ⟨by decide +kernel, by decide +kernel, handle.names_encode, fun trimmed => ?_⟩
  obtain ⟨text, read⟩ := decode_of_trimmed trimmed
  have fault : decode printed = .error ⟨1, some 1⟩ := by decide +kernel
  rw [fault] at read
  cases read

end CommandCollector

end CheckReport
