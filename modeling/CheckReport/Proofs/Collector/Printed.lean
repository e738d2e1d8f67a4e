/-
Which outputs of an open call are handles.

An output is read line by line: the blanks are taken off every line, blank lines do not count, and one line has to be
left. It might as well be read as a whole. Once the blanks at its own ends are off, an output is a handle if something is
left that has no line feed, no carriage return and no NUL; and if it is none, then what is left says why.

- `lines_cases`: the lines that count, by what is left of the whole.
- `handle_of_line`, `handle_of_complaint`: what an output is read as.
- `handle_told_by_whole`: both ways of reading give the same answer.
-/
import CheckReport.Proofs.Collector.Outcomes
import CheckReport.Proofs.Text.Lines

namespace CheckReport.Answer

variable (answer : Answer)

/-- the whole output without the blanks at its ends -/
def printed : String := Text.trim answer.stdout

/-- the call succeeded, and the whole output is one line that may name a record -/
structure PrintsLine : Prop where
  success : answer.success = true
  not_empty : answer.printed ≠ ""
  no_line_feed : '\n' ∉ answer.printed.toList
  no_carriage_return : '\r' ∉ answer.printed.toList
  no_nul : Char.ofNat 0 ∉ answer.printed.toList

/-- why the output names no record, told from the whole of it -/
def complaint : String :=
  if answer.success = false then answer.diagnostic
  else if answer.printed = "" then "collector printed no record handle: " ++ Text.trim answer.stderr
  else if '\n' ∈ answer.printed.toList then "collector printed more than one line: " ++ answer.printed
  else "Invalid argument: record handle must be a single line: " ++ Text.quoted answer.printed

/-- the lines that count: none, all that is left of the whole, or more than one -/
theorem lines_cases :
    (answer.printed = "" ∧ answer.lines = []) ∨
    (answer.printed ≠ "" ∧ '\n' ∉ answer.printed.toList ∧ answer.lines = [answer.printed]) ∨
    (answer.printed ≠ "" ∧ '\n' ∈ answer.printed.toList ∧
      ∃ first second rest, answer.lines = first :: second :: rest) := by
  rw [lines_eq]
  rcases Text.contentLines_cases answer.stdout with
    ⟨empty, none⟩ | ⟨some, one, line, single, same⟩ | ⟨more, first, second, rest, several⟩
  · refine Or.inl ⟨empty, ?_⟩
    rw [none, List.map_nil]
  · refine Or.inr (Or.inl ⟨some, one, ?_⟩)
    rw [single, List.map_singleton, same, printed]
  · refine Or.inr (Or.inr ⟨fun empty => ?_, more, _, _, _, congrArg (List.map Text.trim) several⟩)
    rw [← printed, empty] at more
    cases more

/-- one line that may name a record is its handle -/
theorem handle_of_line (h : answer.PrintsLine) :
    ∃ handle : Handle, handle.text = answer.printed ∧ answer.handle = .ok handle := by
  have not_blank : Text.isBlankText answer.printed = false := Text.isBlankText_trim h.not_empty
  have one_line : isOneLine answer.printed = true :=
    (isOneLine_iff _).2 ⟨h.no_line_feed, h.no_carriage_return, h.no_nul⟩
  have single : answer.lines = [answer.printed] := by
    rcases lines_cases answer with ⟨empty, -⟩ | ⟨-, -, single⟩ | ⟨-, more, -⟩
    · exact absurd empty h.not_empty
    · exact single
    · exact absurd more h.no_line_feed
  have parsed : Handle.parse answer.printed = .ok ⟨answer.printed, not_blank, one_line⟩ :=
    (Handle.parse_eq_ok_iff _ _).2 rfl
  refine ⟨⟨answer.printed, not_blank, one_line⟩, rfl, ?_⟩
  rw [handle, h.success, single]
  simp only [Bool.not_true, Bool.false_eq_true, if_false, parsed]

theorem brokenHandle_message (raw : String) : (Error.invalidArgument (ArgumentFault.brokenHandle raw).message).message =
    "Invalid argument: record handle must be a single line: " ++ Text.quoted raw := by
  have start : "Invalid argument: record handle must be a single line: " =
      "Invalid argument: " ++ "record handle must be a single line: " := by decide
  have whole : (Error.invalidArgument (ArgumentFault.brokenHandle raw).message).message =
      "Invalid argument: " ++ ("record handle must be a single line: " ++ Text.quoted raw) := rfl
  rw [whole, start, String.append_assoc]

/-- any other output is rejected for what is left of the whole -/
theorem handle_of_complaint (h : ¬ answer.PrintsLine) :
    answer.handle = .error (.rejected .begin answer.code answer.complaint) := by
  cases success : answer.success with
  | false => rw [handle_of_failure success, complaint, if_pos success]
  | true =>
    have succeeded : ¬ answer.success = false := by simp [success]
    rw [complaint, if_neg succeeded]
    simp only [handle, success, Bool.not_true, Bool.false_eq_true, if_false]
    rcases lines_cases answer with ⟨empty, none⟩ | ⟨some, one, single⟩ | ⟨some, more, first, second, rest, several⟩
    · rw [none, if_pos empty]
    · have ended : ¬ isOneLine answer.printed = true := by
        rw [isOneLine_iff]
        exact fun ⟨lf, cr, nul⟩ => h ⟨success, some, lf, cr, nul⟩
      have refused : Handle.parse answer.printed = .error (.brokenHandle answer.printed) :=
        (dif_pos (Text.isBlankText_trim some)).trans (dif_neg ended)
      rw [if_neg some, if_neg one, single]
      simp only [refused, brokenHandle_message]
    · rw [several, if_neg some, if_pos more, printed]

/-- **The output is read the same line by line and as a whole.** For every output, whatever the call's code, and
whether or not it succeeded. -/
theorem handle_told_by_whole :
    (∀ record : Handle, answer.handle = .ok record ↔ answer.PrintsLine ∧ record.text = answer.printed) ∧
    (answer.PrintsLine → ∃ record, answer.handle = .ok record) ∧
    (¬ answer.PrintsLine → answer.handle = .error (.rejected .begin answer.code answer.complaint)) ∧
    (∀ line, answer.lines = [line] ↔
      answer.printed ≠ "" ∧ '\n' ∉ answer.printed.toList ∧ line = answer.printed) := by
  refine ⟨fun record => ⟨fun read => ?_, ?_⟩, fun h => ?_, handle_of_complaint answer, fun line => ?_⟩
  · by_cases h : answer.PrintsLine
    · obtain ⟨same, text, read'⟩ := handle_of_line answer h
      rw [read] at read'
      cases read'
      exact ⟨h, text⟩
    · rw [handle_of_complaint answer h] at read
      cases read
  · rintro ⟨h, text⟩
    obtain ⟨same, text', read⟩ := handle_of_line answer h
    rw [read, Handle.text_injective (text'.trans text.symm)]
  · obtain ⟨record, -, read⟩ := handle_of_line answer h
    exact ⟨record, read⟩
  · rcases lines_cases answer with ⟨empty, none⟩ | ⟨some, one, single⟩ | ⟨some, more, first, second, rest, several⟩
    · simp [none, empty]
    · simp [single, some, one, eq_comm]
    · simp [several, more]

/-- blank lines, a lone carriage return in the margin and a space that ends no line: one handle -/
example : Answer.handle ⟨"\r \n\u3000 a b\u2028\r\n\n", "", none, true⟩ = .ok ⟨"a b", by decide, by decide⟩ := by
  decide +kernel

end CheckReport.Answer
