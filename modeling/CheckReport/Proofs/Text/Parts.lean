/-
Lines as parts between line feeds.

A line feed cuts a text into parts. The parts in front of the last line feed are lines, each without a carriage return at
its end; what stands behind it is a line as it is, carriage return included, unless it is empty. A text behind a closed
one is read as if nothing stood in front of it; behind a text whose last line is open, its first part goes on with that
line.

- `pieces_append`, `bare_append_lf`: the pieces up to a line feed, and one piece without its end.
- `bare_pieces`: lines by their parts.
- `lines_append`, `closedLines_append`: what stands behind a closed text, and behind an open line.
- `lines_append_written`: the lines of texts that were written one after the other.
- `flatMap_closedLines_eq_self_iff`: the texts that are read back as they were written.
-/
import CheckReport.Proofs.Text.Lines

namespace CheckReport.Text

/-! ## Pieces and parts -/

section Pieces

variable {α : Type} [DecidableEq α]

/-- the sequence without the mark, if it ends with it -/
def withoutEnd (mark : α) (cs : List α) : List α := if cs.getLast? = some mark then cs.dropLast else cs

theorem withoutEnd_eq_self_iff (mark : α) (cs : List α) : withoutEnd mark cs = cs ↔ cs.getLast? ≠ some mark := by
  unfold withoutEnd
  split_ifs with h
  · obtain ⟨front, rfl⟩ := List.getLast?_eq_some_iff.1 h
    simp
  · exact iff_of_true rfl h

theorem pieces_append (lf : α) (front back : List α) :
    pieces lf (front ++ lf :: back) = (front.splitOn lf).map (· ++ [lf]) ++ pieces lf back := by
  induction front with
  | nil => simp [pieces]
  | cons c front ih =>
    obtain ⟨first, rest, hsplit⟩ := List.exists_cons_of_ne_nil (List.splitOn_ne_nil lf front)
    rw [List.cons_append, pieces, List.splitOn_cons_eq_if_modifyHead, ih, hsplit]
    by_cases hc : c = lf
    · simp [hc]
    · simp [hc]

theorem pieces_of_notMem {lf : α} {cs : List α} (h : lf ∉ cs) : pieces lf cs = if cs = [] then [] else [cs] := by
  induction cs with
  | nil => rfl
  | cons c cs ih =>
    rw [List.mem_cons, not_or] at h
    rw [pieces, if_neg (Ne.symm h.1), ih h.2]
    by_cases hcs : cs = []
    · simp [hcs]
    · simp [hcs]

theorem bare_append_lf (lf cr : α) (cs : List α) : bare lf cr (cs ++ [lf]) = withoutEnd cr cs := by
  induction cs using List.reverseRecOn with
  | nil => simp [bare, withoutEnd]
  | append_singleton front c => simp [bare, withoutEnd]

/-- a part holds no mark -/
theorem not_mem_of_mem_splitOn {mark : α} {part cs : List α} (h : part ∈ cs.splitOn mark) : mark ∉ part := by
  induction cs generalizing part with
  | nil =>
    rw [List.splitOn_nil, List.mem_singleton] at h
    rw [h]
    exact List.not_mem_nil
  | cons c cs ih =>
    rw [List.splitOn_cons_eq_if_modifyHead] at h
    split_ifs at h with hc
    · rcases List.mem_cons.1 h with rfl | later
      · exact List.not_mem_nil
      · exact ih later
    · obtain ⟨first, rest, hsplit⟩ := List.exists_cons_of_ne_nil (List.splitOn_ne_nil mark cs)
      rw [hsplit] at h ih
      rcases List.mem_cons.1 h with rfl | later
      · rw [List.mem_cons, not_or]
        exact ⟨fun same => hc (beq_iff_eq.2 same.symm), ih List.mem_cons_self⟩
      · exact ih (List.mem_cons_of_mem first later)

/-- what is put in front of the first mark stands in front of the first part -/
theorem splitOn_append_of_notMem {mark : α} {front : List α} (h : mark ∉ front) (cs : List α) :
    (front ++ cs).splitOn mark = (cs.splitOn mark).modifyHead (front ++ ·) := by
  induction front with
  | nil =>
    obtain ⟨first, rest, hsplit⟩ := List.exists_cons_of_ne_nil (List.splitOn_ne_nil mark cs)
    rw [List.nil_append, hsplit]
    rfl
  | cons c front ih =>
    rw [List.mem_cons, not_or] at h
    have hc : (c == mark) = false := beq_eq_false_iff_ne.2 (Ne.symm h.1)
    obtain ⟨first, rest, hsplit⟩ := List.exists_cons_of_ne_nil (List.splitOn_ne_nil mark cs)
    rw [List.cons_append, List.splitOn_cons_eq_if_modifyHead, hc, ih h.2, hsplit]
    rfl

/-- the lines of a sequence by its parts: those that a line feed ends, and an open one behind the last line feed -/
def lineParts (lf cr : α) (cs : List α) : List (List α) :=
  (cs.splitOn lf).dropLast.map (withoutEnd cr) ++ (cs.splitOn lf).getLast?.toList.filter (· ≠ [])

theorem bare_pieces_append (lf cr : α) (front back : List α) : (pieces lf (front ++ lf :: back)).map (bare lf cr) =
    (front.splitOn lf).map (withoutEnd cr) ++ (pieces lf back).map (bare lf cr) := by
  rw [pieces_append, List.map_append, List.map_map]
  congr 1
  exact List.map_congr_left fun part _ => bare_append_lf lf cr part

theorem bare_pieces_of_notMem {lf : α} {cs : List α} (h : lf ∉ cs) (cr : α) :
    (pieces lf cs).map (bare lf cr) = if cs = [] then [] else [cs] := by
  rw [pieces_of_notMem h]
  split_ifs
  · rfl
  · rw [List.map_singleton, bare_of_notMem h]

theorem bare_pieces (lf cr : α) (cs : List α) : (pieces lf cs).map (bare lf cr) = lineParts lf cr cs := by
  unfold lineParts
  by_cases h : lf ∈ cs
  · -- the last line feed is the first one from behind
    obtain ⟨back, front, hrev, fresh⟩ := List.eq_append_cons_of_mem (List.mem_reverse.2 h)
    have whole : cs = front.reverse ++ lf :: back.reverse := by
      rw [← List.reverse_reverse cs, hrev]
      simp
    have last : lf ∉ back.reverse := fun mem => fresh (List.mem_reverse.1 mem)
    rw [whole, bare_pieces_append, bare_pieces_of_notMem last, List.splitOn_append_cons_self,
      List.splitOn_eq_singleton last, List.dropLast_concat, List.getLast?_concat]
    by_cases hb : back.reverse = [] <;> simp [hb]
  · rw [bare_pieces_of_notMem h, List.splitOn_eq_singleton h]
    by_cases hs : cs = [] <;> simp [hs]

end Pieces

/-! ## The lines of a text -/

/-- the lines of a text by its parts -/
def partLines (s : String) : List String := (lineParts '\n' '\r' s.toList).map String.ofList

/-! ## Texts behind texts -/

/-- the last line of the text has its line feed -/
def IsClosed (s : String) : Prop := s = "" ∨ s.toList.getLast? = some '\n'

theorem isClosed_append_lf (s : String) : IsClosed (s ++ "\n") := by
  right
  rw [String.toList_append]
  exact List.getLast?_concat ..

theorem IsClosed.append {s t : String} (hs : IsClosed s) (ht : IsClosed t) : IsClosed (s ++ t) := by
  rcases ht with rfl | ht
  · rwa [String.append_empty]
  · right
    rw [String.toList_append, List.getLast?_append, ht]
    rfl

/-- the line of a part behind which a line feed stands -/
def closedLine (part : List Char) : String := String.ofList (withoutEnd '\r' part)

/-- the lines of a text behind which a line feed stands -/
def closedLines (s : String) : List String := (s.toList.splitOn '\n').map closedLine

/-- a text is a closed one with an open line behind it, which is empty if the whole is closed -/
theorem exists_open_line (s : String) : ∃ front rest, s = front ++ rest ∧ IsClosed front ∧ '\n' ∉ rest.toList := by
  by_cases h : '\n' ∈ s.toList
  · obtain ⟨back, front, hrev, fresh⟩ := List.eq_append_cons_of_mem (List.mem_reverse.2 h)
    refine ⟨String.ofList front.reverse ++ "\n", String.ofList back.reverse, ?_, isClosed_append_lf _, ?_⟩
    · rw [← String.toList_inj, ← List.reverse_reverse s.toList, hrev]
      simp
    · rw [String.toList_ofList, List.mem_reverse]
      exact fresh
  · exact ⟨"", s, String.empty_append.symm, Or.inl rfl, h⟩

/-- a text that is put behind a closed one leaves the lines as they are -/
theorem lines_append {s : String} (h : IsClosed s) (t : String) : lines (s ++ t) = lines s ++ lines t := by
  rcases h with rfl | h
  · rw [String.empty_append]
    rfl
  · obtain ⟨front, hs⟩ := List.getLast?_eq_some_iff.1 h
    have whole : (s ++ t).toList = front ++ '\n' :: t.toList := by
      rw [String.toList_append, hs, List.append_assoc]
      rfl
    have none : (pieces '\n' []).map (bare '\n' '\r') = [] := rfl
    simp only [lines, lineChars]
    rw [whole, hs, bare_pieces_append, bare_pieces_append, none, List.append_nil, List.map_append]

theorem lines_append_lf (s : String) : lines (s ++ "\n") = closedLines s := by
  have whole : (s ++ "\n").toList = s.toList ++ '\n' :: [] := String.toList_append
  have none : (pieces '\n' []).map (bare '\n' '\r') = [] := rfl
  rw [lines, lineChars, whole, bare_pieces_append, none, List.append_nil, List.map_map]
  rfl

/-- an open line goes on with the first part of what is put behind it -/
theorem closedLines_append {s t : String} {part : List Char} {parts : List (List Char)} (h : '\n' ∉ s.toList)
    (split : t.toList.splitOn '\n' = part :: parts) :
    closedLines (s ++ t) = closedLine (s.toList ++ part) :: parts.map closedLine := by
  rw [closedLines, String.toList_append, splitOn_append_of_notMem h, split]
  rfl

/-! ## Texts that are written line by line -/

/-- texts one after the other, a line feed behind each -/
def written (texts : List String) : String := String.join (texts.map (· ++ "\n"))

theorem written_cons (text : String) (texts : List String) : written (text :: texts) = text ++ "\n" ++ written texts :=
  String.join_cons

/-- what is written behind a closed text is read behind its lines -/
theorem lines_append_written {s : String} (h : IsClosed s) (texts : List String) :
    lines (s ++ written texts) = lines s ++ texts.flatMap closedLines := by
  induction texts generalizing s with
  | nil =>
    rw [written, List.map_nil, String.join_nil, String.append_empty]
    exact (List.append_nil _).symm
  | cons text texts ih =>
    have more : IsClosed (s ++ (text ++ "\n")) := h.append (isClosed_append_lf text)
    rw [written_cons, ← String.append_assoc, ih more, lines_append h, lines_append_lf, List.flatMap_cons,
      List.append_assoc]

/-- an open line goes on with the first of the texts that are written behind it -/
theorem lines_append_written_cons {front rest : String} (h : IsClosed front) (text : String) (texts : List String) :
    lines (front ++ rest ++ written (text :: texts)) =
      lines front ++ closedLines (rest ++ text) ++ texts.flatMap closedLines := by
  have whole : front ++ rest ++ written (text :: texts) = front ++ written ((rest ++ text) :: texts) := by
    simp only [written_cons, String.append_assoc]
  rw [whole, lines_append_written h, List.flatMap_cons, List.append_assoc]

/-! ## Texts that are read back -/

theorem closedLines_ne_nil (s : String) : closedLines s ≠ [] := by
  rw [closedLines, ne_eq, List.map_eq_nil_iff]
  exact List.splitOn_ne_nil '\n' s.toList

theorem not_mem_of_splitOn_singleton {cs part : List Char} (h : cs.splitOn '\n' = [part]) : '\n' ∉ cs ∧ part = cs := by
  have whole : ['\n'].intercalate (cs.splitOn '\n') = cs := List.intercalate_splitOn '\n'
  rw [h] at whole
  obtain rfl : part = cs := by simpa [List.intercalate] using whole
  exact ⟨not_mem_of_mem_splitOn (h ▸ List.mem_singleton_self part), rfl⟩

/-- a text is its one line exactly if it holds no line feed and does not end in a carriage return -/
theorem closedLines_eq_singleton_iff (s : String) :
    closedLines s = [s] ↔ '\n' ∉ s.toList ∧ s.toList.getLast? ≠ some '\r' := by
  rw [← withoutEnd_eq_self_iff]
  constructor
  · intro h
    obtain ⟨part, hsplit, hline⟩ := List.map_eq_singleton_iff.1 h
    obtain ⟨single, rfl⟩ := not_mem_of_splitOn_singleton hsplit
    refine ⟨single, ?_⟩
    rw [← String.toList_ofList (l := withoutEnd '\r' s.toList), ← closedLine, hline]
  · rintro ⟨single, same⟩
    rw [closedLines, List.splitOn_eq_singleton single, List.map_singleton, closedLine, same, String.ofList_toList]

theorem length_le_flatMap_closedLines (texts : List String) : texts.length ≤ (texts.flatMap closedLines).length := by
  induction texts with
  | nil => exact Nat.le_refl 0
  | cons text texts ih =>
    have := List.length_pos_of_ne_nil (closedLines_ne_nil text)
    rw [List.flatMap_cons, List.length_append, List.length_cons]
    omega

/-- **Texts are read back as they were written** exactly if each of them is one line that does not end in a carriage
return. -/
theorem flatMap_closedLines_eq_self_iff (texts : List String) : texts.flatMap closedLines = texts ↔
    ∀ text ∈ texts, '\n' ∉ text.toList ∧ text.toList.getLast? ≠ some '\r' := by
  induction texts with
  | nil => simp
  | cons text texts ih =>
    rw [List.forall_mem_cons, ← closedLines_eq_singleton_iff, ← ih, List.flatMap_cons]
    constructor
    · intro h
      -- no text makes less than one line, so the first makes one
      have rest := length_le_flatMap_closedLines texts
      have lengths := congrArg List.length h
      rw [List.length_append, List.length_cons] at lengths
      obtain ⟨line, more, hlines⟩ := List.exists_cons_of_ne_nil (closedLines_ne_nil text)
      rw [hlines, List.length_cons] at lengths
      obtain rfl : more = [] := List.eq_nil_of_length_eq_zero (by omega)
      rw [hlines, List.singleton_append, List.cons.injEq] at h
      rw [hlines, h.1]
      exact ⟨rfl, h.2⟩
    · rintro ⟨first, rest⟩
      rw [first, rest]
      rfl

end CheckReport.Text
