/-
Lines and the text as a whole.

A line ends with the first line feed, so that no line holds one. How many lines of a text are not blank can therefore be
told without cutting it into lines, from what trimming leaves of the whole: nothing, or a text without a line feed, or a
text with one.

- `pieces_line`, `lf_notMem_bare`: only the end of a piece is a line feed, and the line is without it.
- `pieces_closed`: every piece but the last has its line feed.
- `trimChars_between`: trimming leaves what stands between two characters that are not blank.
- `contentLines_cases`: the lines that are not blank, by what trimming leaves of the text.
-/
import CheckReport.Proofs.Text.Trim

namespace CheckReport.Text

/-! ## Pieces -/

section Pieces

variable {α : Type} [DecidableEq α] {lf : α}

/-- a piece is a line, with its line feed or without -/
theorem pieces_line {cs p : List α} (h : p ∈ pieces lf cs) : ∃ q, lf ∉ q ∧ (p = q ++ [lf] ∨ p = q) := by
  fun_induction pieces lf cs generalizing p with
  | case1 => cases h
  | case2 cs ih =>
    rcases List.mem_cons.1 h with rfl | h
    · exact ⟨[], List.not_mem_nil, Or.inl rfl⟩
    · exact ih h
  | case3 c cs hc none ih =>
    rw [List.mem_singleton.1 h]
    exact ⟨[c], fun mem => hc (List.mem_singleton.1 mem).symm, Or.inr rfl⟩
  | case4 c cs hc p' ps some ih =>
    rw [some] at ih
    rcases List.mem_cons.1 h with rfl | h
    · obtain ⟨q, hq, line⟩ := ih List.mem_cons_self
      have fresh : lf ∉ c :: q := List.not_mem_cons_of_ne_of_not_mem (Ne.symm hc) hq
      rcases line with rfl | rfl
      · exact ⟨c :: q, fresh, Or.inl rfl⟩
      · exact ⟨c :: p', fresh, Or.inr rfl⟩
    · exact ih (List.mem_cons_of_mem p' h)

/-- only at the end of the last piece may the line feed be missing -/
theorem pieces_closed {cs p : List α} {front back : List (List α)} (h : pieces lf cs = front ++ p :: back)
    (more : back ≠ []) : ∃ q, p = q ++ [lf] := by
  fun_induction pieces lf cs generalizing front p with
  | case1 => exact absurd h.symm (by simp)
  | case2 cs ih =>
    cases front with
    | nil =>
      obtain ⟨rfl, -⟩ := List.cons.inj h
      exact ⟨[], rfl⟩
    | cons first front => exact ih (List.cons.inj h).2
  | case3 c cs hc none ih =>
    cases front with
    | nil => exact absurd (List.cons.inj h).2.symm more
    | cons first front => exact absurd (List.cons.inj h).2.symm (by simp)
  | case4 c cs hc p' ps some ih =>
    cases front with
    | nil =>
      obtain ⟨rfl, rfl⟩ := List.cons.inj h
      have first : pieces lf cs = [] ++ p' :: ps := some
      obtain ⟨q, rfl⟩ := ih first
      exact ⟨c :: q, rfl⟩
    | cons first front =>
      obtain ⟨-, rfl⟩ := List.cons.inj h
      have later : pieces lf cs = (p' :: front) ++ p :: back := some
      exact ih later

theorem bare_of_notMem {cr : α} {q : List α} (h : lf ∉ q) : bare lf cr q = q := by
  unfold bare
  split
  · rfl
  · rename_i last before hr
    have mem : last ∈ q := List.mem_reverse.1 (hr ▸ List.mem_cons_self)
    exact if_neg fun same : last = lf => h (same ▸ mem)

theorem bare_sublist (cr : α) (q : List α) : (bare lf cr (q ++ [lf])).Sublist q := by
  unfold bare
  rw [List.reverse_append, List.reverse_singleton, List.singleton_append]
  simp only [if_true]
  split
  · exact List.nil_sublist q
  · rename_i c before hr
    have whole : q = before.reverse ++ [c] := by rw [List.reverse_eq_iff.1 hr, List.reverse_cons]
    rw [List.reverse_reverse]
    split_ifs
    · rw [whole]
      exact List.sublist_append_left _ _
    · exact List.Sublist.refl q

/-- a line holds no line feed -/
theorem lf_notMem_bare {cr : α} {cs p : List α} (h : p ∈ pieces lf cs) : lf ∉ bare lf cr p := by
  obtain ⟨q, hq, rfl | rfl⟩ := pieces_line h
  · exact fun mem => hq ((bare_sublist cr q).subset mem)
  · rw [bare_of_notMem hq]
    exact hq

end Pieces

/-! ## What trimming leaves -/

/-- the text between characters that are not blank is left -/
theorem trimChars_between {front back : List Char} (hf : front.all isBlank = false) (hb : back.all isBlank = false)
    (mid : List Char) : ∃ front' back', trimChars (front ++ mid ++ back) = front' ++ mid ++ back' := by
  have some_left : ∀ cs : List Char, cs.all isBlank = false → ∀ rest, trimFront (cs ++ rest) = trimFront cs ++ rest := by
    intro cs hcs rest
    have left : (cs.dropWhile isBlank).isEmpty = false := by
      rw [← Bool.not_eq_true, List.isEmpty_iff]
      intro none
      rw [(trimFront_eq_nil_iff cs).1 none] at hcs
      cases hcs
    rw [trimFront, List.dropWhile_append, left]
    rfl
  have back_left : back.reverse.all isBlank = false := by rw [List.all_reverse, hb]
  refine ⟨trimFront front, (trimFront back.reverse).reverse, ?_⟩
  calc trimChars (front ++ mid ++ back)
      = (trimFront (back.reverse ++ (trimFront front ++ mid).reverse)).reverse := by
        rw [trimChars, List.append_assoc, some_left front hf, ← List.append_assoc, List.reverse_append]
    _ = trimFront front ++ mid ++ (trimFront back.reverse).reverse := by
        rw [some_left back.reverse back_left, List.reverse_append, List.reverse_reverse]

/-- trimming leaves no character that was not there -/
theorem mem_of_mem_trimChars {c : Char} {cs : List Char} (h : c ∈ trimChars cs) : c ∈ cs := by
  obtain ⟨front, back, -, -, split⟩ := trimChars_split cs
  rw [split]
  exact List.mem_append_left _ (List.mem_append_right _ h)

theorem isBlankText_trim {s : String} (h : trim s ≠ "") : isBlankText (trim s) = false := by
  cases ht : trimChars s.toList with
  | nil => exact absurd (congrArg String.ofList ht) h
  | cons c rest =>
    have first := trimChars_first ht
    rw [isBlankText, trim, String.toList_ofList, ht, List.all_cons, first, Bool.false_and]

/-! ## The lines that are not blank -/

/-- the pieces of which the lines that are not blank are made -/
theorem contentLines_eq (s : String) : contentLines s =
    ((pieces '\n' s.toList).filter fun p => !p.all isBlank).map (String.ofList ∘ bare '\n' '\r') := by
  rw [contentLines, lines, lineChars, List.map_map, List.filter_map]
  refine congrArg _ (List.filter_congr fun p _ => ?_)
  rw [Function.comp_apply, Function.comp_apply, isBlankText, String.toList_ofList, all_isBlank_bare]

theorem lf_notMem_of_contentLines {s line : String} (h : line ∈ contentLines s) : '\n' ∉ line.toList := by
  rw [contentLines_eq, List.mem_map] at h
  obtain ⟨p, hp, rfl⟩ := h
  rw [Function.comp_apply, String.toList_ofList]
  exact lf_notMem_bare (List.mem_filter.1 hp).1

/-- between two lines that are not blank stands a line feed -/
theorem lf_mem_trim_of_contentLines {s first second : String} {rest : List String}
    (h : contentLines s = first :: second :: rest) : '\n' ∈ (trim s).toList := by
  rw [contentLines_eq, List.map_eq_cons_iff] at h
  obtain ⟨p, ps, hfilter, -, hps⟩ := h
  obtain ⟨r, _, rfl, -, -⟩ := List.map_eq_cons_iff.1 hps
  obtain ⟨front, behind, hpieces, -, hp, hbehind⟩ := List.filter_eq_cons_iff.1 hfilter
  obtain ⟨mid, back, rfl, -, hr, -⟩ := List.filter_eq_cons_iff.1 hbehind
  obtain ⟨q, rfl⟩ := pieces_closed hpieces (by simp)
  have whole : s.toList = (front.flatten ++ q) ++ ['\n'] ++ (mid ++ r :: back).flatten := by
    rw [← flatten_pieces '\n' s.toList, hpieces]
    simp
  have before : (front.flatten ++ q).all isBlank = false := by
    have hq : q.all isBlank = false := by simpa [isBlank] using hp
    rw [List.all_append, hq, Bool.and_false]
  have after : (mid ++ r :: back).flatten.all isBlank = false := by
    have hr' : r.all isBlank = false := by simpa using hr
    simp [hr']
  obtain ⟨front', back', left⟩ := trimChars_between before after ['\n']
  rw [trim, String.toList_ofList, whole, left]
  simp

/-- **The lines that are not blank**, by what trimming leaves of the text. -/
theorem contentLines_cases (s : String) :
    (trim s = "" ∧ contentLines s = []) ∨
    (trim s ≠ "" ∧ '\n' ∉ (trim s).toList ∧ ∃ line, contentLines s = [line] ∧ trim line = trim s) ∨
    ('\n' ∈ (trim s).toList ∧ ∃ first second rest, contentLines s = first :: second :: rest) := by
  cases h : contentLines s with
  | nil =>
    refine Or.inl ⟨(trim_eq_empty_iff s).2 ?_, rfl⟩
    have none : (pieces '\n' s.toList).filter (fun p => !p.all isBlank) = [] := by
      rw [contentLines_eq] at h
      exact List.map_eq_nil_iff.1 h
    rw [isBlankText, ← flatten_pieces '\n' s.toList, List.all_flatten, List.all_eq_true]
    intro p hp
    simpa using List.filter_eq_nil_iff.1 none p hp
  | cons first more =>
    cases more with
    | nil =>
      have same : trim first = trim s := trim_of_contentLines h
      have mem : first ∈ contentLines s := by
        rw [h]
        exact List.mem_singleton_self first
      refine Or.inr (Or.inl ⟨fun empty => ?_, fun lf => ?_, first, rfl, same⟩)
      · have content : (!isBlankText first) = true := (List.mem_filter.1 mem).2
        rw [(trim_eq_empty_iff first).1 (same.trans empty)] at content
        cases content
      · rw [← same, trim, String.toList_ofList] at lf
        exact lf_notMem_of_contentLines mem (mem_of_mem_trimChars lf)
    | cons second rest => exact Or.inr (Or.inr ⟨lf_mem_trim_of_contentLines h, first, second, rest, rfl⟩)

end CheckReport.Text
