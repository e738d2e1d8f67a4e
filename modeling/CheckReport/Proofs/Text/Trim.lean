/-
What trimming leaves.

Trimming takes blanks off both ends and stops at characters that are none. Of a text with one line that is not blank it
leaves what it leaves of that line, since line ends are blanks as well.

- `trimChars_split`, `trimChars_append`: the blanks at the ends, and nothing else, are taken off.
- `trimChars_first`, `trimChars_last`: what is left neither begins nor ends with a blank.
- `trim_of_contentLines`: the one line that is not blank.
-/
import CheckReport.Text.Blank
import CheckReport.Text.Lines
import Mathlib.Tactic

namespace CheckReport.Text

variable {front back : List Char}

/-! ## Blanks at the ends -/

theorem trimFront_append (h : front.all isBlank = true) (cs : List Char) :
    trimFront (front ++ cs) = trimFront cs :=
  List.dropWhile_append_of_pos (List.all_eq_true.1 h)

theorem trimFront_first {c : Char} {cs rest : List Char} (h : trimFront cs = c :: rest) : isBlank c = false := by
  have stopped := List.head?_dropWhile_not isBlank cs
  rw [trimFront] at h
  rw [h] at stopped
  exact stopped

/-- what trimming takes off at the end -/
theorem trimFront_split (cs : List Char) :
    ∃ back, back.all isBlank = true ∧ trimFront cs = trimChars cs ++ back := by
  refine ⟨((trimFront cs).reverse.takeWhile isBlank).reverse, ?_, ?_⟩
  · rw [List.all_reverse]
    exact List.all_takeWhile
  · have whole := List.takeWhile_append_dropWhile (p := isBlank) (l := (trimFront cs).reverse)
    rw [trimChars, ← List.reverse_append]
    exact ((congrArg List.reverse whole).trans (List.reverse_reverse _)).symm

theorem trimChars_split (cs : List Char) :
    ∃ front back, front.all isBlank = true ∧ back.all isBlank = true ∧ cs = front ++ trimChars cs ++ back := by
  obtain ⟨back, hback, split⟩ := trimFront_split cs
  refine ⟨cs.takeWhile isBlank, back, List.all_takeWhile, hback, ?_⟩
  rw [List.append_assoc, ← split]
  exact List.takeWhile_append_dropWhile.symm

theorem trimChars_append (hf : front.all isBlank = true) (hb : back.all isBlank = true) (cs : List Char) :
    trimChars (front ++ cs ++ back) = trimChars cs := by
  cases h : cs.all isBlank with
  | true =>
    rw [(trimChars_eq_nil_iff cs).2 h, trimChars_eq_nil_iff]
    rw [List.all_append, List.all_append, hf, h, hb]
    rfl
  | false =>
    have some_left : (trimFront cs).isEmpty = false := by
      rw [← Bool.not_eq_true, List.isEmpty_iff, trimFront_eq_nil_iff, h]
      exact Bool.false_ne_true
    have front_off : trimFront (front ++ cs ++ back) = trimFront cs ++ back := by
      rw [List.append_assoc, trimFront_append hf, trimFront, List.dropWhile_append, if_neg]
      · rfl
      · rw [← trimFront, some_left]
        exact Bool.false_ne_true
    rw [trimChars, front_off, List.reverse_append, trimFront_append (by rw [List.all_reverse, hb]), trimChars]

theorem trimChars_first {c : Char} {cs rest : List Char} (h : trimChars cs = c :: rest) : isBlank c = false := by
  obtain ⟨back, -, split⟩ := trimFront_split cs
  rw [h, List.cons_append] at split
  exact trimFront_first split

theorem trimChars_last {c : Char} {cs rest : List Char} (h : trimChars cs = rest ++ [c]) : isBlank c = false := by
  rw [trimChars, List.reverse_eq_iff, List.reverse_append, List.reverse_singleton, List.singleton_append] at h
  exact trimFront_first h

theorem trim_eq_empty_iff (s : String) : trim s = "" ↔ isBlankText s = true := by
  rw [trim, isBlankText, ← trimChars_eq_nil_iff]
  exact String.ofList_eq_empty_iff

/-! ## The one line that is not blank -/

/-- the lines that are not blank -/
def contentLines (s : String) : List String := (lines s).filter fun line => !isBlankText line

/-- the end of a line is blank -/
theorem bare_split (piece : List Char) :
    ∃ back, back.all isBlank = true ∧ piece = bare '\n' '\r' piece ++ back := by
  unfold bare
  split
  · exact ⟨[], rfl, (List.append_nil piece).symm⟩
  rename_i last before h
  obtain rfl : piece = before.reverse ++ [last] := by
    rw [List.reverse_eq_iff.1 h, List.reverse_cons]
  split_ifs with hlast
  · subst hlast
    cases before with
    | nil => exact ⟨['\n'], rfl, rfl⟩
    | cons c front =>
      simp only
      split_ifs with hc
      · subst hc
        exact ⟨['\r', '\n'], rfl, by simp⟩
      · exact ⟨['\n'], rfl, rfl⟩
  · exact ⟨[], rfl, (List.append_nil _).symm⟩

theorem all_isBlank_bare (piece : List Char) : (bare '\n' '\r' piece).all isBlank = piece.all isBlank := by
  obtain ⟨back, hback, split⟩ := bare_split piece
  conv_rhs => rw [split, List.all_append, hback, Bool.and_true]

theorem trimChars_bare (piece : List Char) : trimChars (bare '\n' '\r' piece) = trimChars piece := by
  obtain ⟨back, hback, split⟩ := bare_split piece
  conv_rhs => rw [split]
  exact (trimChars_append List.all_nil hback _).symm

/-- pieces without a line that is not blank are blank, and such a line is what counts if it is the only one -/
theorem flatten_of_content (ps : List (List Char)) :
    let content := (ps.map (bare '\n' '\r')).filter fun line => !line.all isBlank
    (content = [] → ps.flatten.all isBlank = true) ∧
      ∀ line, content = [line] → trimChars line = trimChars ps.flatten := by
  induction ps with
  | nil => exact ⟨fun _ => rfl, fun line h => by cases h⟩
  | cons p ps ih =>
    obtain ⟨blank, single⟩ := ih
    simp only [List.map_cons, List.flatten_cons]
    cases hp : p.all isBlank with
    | true =>
      have skipped : (!(bare '\n' '\r' p).all isBlank) = false := by rw [all_isBlank_bare, hp, Bool.not_true]
      rw [List.filter_cons, skipped, if_neg Bool.false_ne_true]
      refine ⟨fun h => ?_, fun line h => ?_⟩
      · rw [List.all_append, hp, blank h, Bool.and_true]
      · rw [single line h, ← trimChars_append hp List.all_nil ps.flatten, List.append_nil]
    | false =>
      have kept : (!(bare '\n' '\r' p).all isBlank) = true := by rw [all_isBlank_bare, hp, Bool.not_false]
      rw [List.filter_cons, kept, if_pos rfl]
      refine ⟨fun h => absurd h (List.cons_ne_nil _ _), fun line h => ?_⟩
      obtain ⟨rfl, rest⟩ := List.cons.inj h
      rw [trimChars_bare, ← trimChars_append List.all_nil (blank rest) p, List.nil_append]

/-- **The one line that is not blank**, trimmed, is the whole text, trimmed. -/
theorem trim_of_contentLines {s line : String} (h : contentLines s = [line]) : trim line = trim s := by
  have content : (((pieces '\n' s.toList).map (bare '\n' '\r')).filter fun line => !line.all isBlank) =
      [line.toList] := by
    have lists := congrArg (List.map String.toList) h
    rw [contentLines, lines, lineChars, List.filter_map, List.map_map] at lists
    have back : String.toList ∘ String.ofList = id := funext fun cs => String.toList_ofList
    rw [back, List.map_id] at lists
    refine Eq.trans (List.filter_congr fun cs _ => ?_) lists
    rw [Function.comp_apply, isBlankText, String.toList_ofList]
  have whole := (flatten_of_content (pieces '\n' s.toList)).2 line.toList content
  rw [trim, whole, flatten_pieces, trim]

end CheckReport.Text
