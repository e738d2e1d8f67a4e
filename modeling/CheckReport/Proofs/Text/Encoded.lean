/-
Lines of bytes.

The marks of a line end are bytes that stand for themselves, so an input is cut into lines at the same places whether it
is taken as bytes or as a text. Cut as bytes, each line can be read by itself: the whole is a text exactly if each of its
lines is one.

- `splitOn_encodeChars`, `lineParts_encodeChars`: the parts and the lines of the bytes of a text.
- `exists_text_of_lines`: an input of which each line is a text is a text.
-/
import CheckReport.Proofs.Text.Parts
import CheckReport.Proofs.Text.Utf8

namespace CheckReport.Text

open Utf8 (Bytes encode encodeChar encodeChars)

/-! ## The bytes of a text -/

theorem splitOn_encodeChars (cs : List Char) : (encodeChars cs).splitOn 0x0A = (cs.splitOn '\n').map encodeChars := by
  induction cs with
  | nil => rfl
  | cons c cs ih =>
    obtain ⟨part, parts, hsplit⟩ := List.exists_cons_of_ne_nil (List.splitOn_ne_nil '\n' cs)
    have whole : encodeChars (c :: cs) = encodeChar c ++ encodeChars cs := rfl
    rw [whole, List.splitOn_cons_eq_if_modifyHead]
    by_cases hc : c = '\n'
    · have mark : encodeChar '\n' = [0x0A] := rfl
      rw [hc, mark, List.singleton_append, List.splitOn_cons_eq_if_modifyHead, ih]
      rfl
    · have other : 0x0A ∉ encodeChar c := fun mem =>
        hc ((Utf8.ascii_mem_encodeChar_iff (b := 0x0A) (by decide) c).1 mem)
      rw [splitOn_append_of_notMem other, ih, hsplit, if_neg (by simpa using hc)]
      rfl

theorem withoutEnd_encodeChars (cs : List Char) : withoutEnd 0x0D (encodeChars cs) = encodeChars (withoutEnd '\r' cs) := by
  have same := Utf8.getLast?_encodeChars_iff (b := 0x0D) (by decide) cs
  unfold withoutEnd
  by_cases h : cs.getLast? = some '\r'
  · obtain ⟨front, rfl⟩ := List.getLast?_eq_some_iff.1 h
    have mark : encodeChars ['\r'] = [0x0D] := rfl
    rw [if_pos h, if_pos (same.2 h), List.dropLast_concat, Utf8.encodeChars_append, mark, List.dropLast_concat]
  · rw [if_neg h, if_neg fun last => h (same.1 last)]

theorem encodeChars_eq_nil_iff (cs : List Char) : encodeChars cs = [] ↔ cs = [] :=
  ⟨fun h => Utf8.encodeChars_injective h, fun h => h ▸ rfl⟩

theorem lineParts_encodeChars (cs : List Char) :
    lineParts 0x0A 0x0D (encodeChars cs) = (lineParts '\n' '\r' cs).map encodeChars := by
  unfold lineParts
  rw [splitOn_encodeChars, List.map_append, List.map_map, ← List.map_dropLast, List.map_map, List.getLast?_map]
  congr 1
  · exact List.map_congr_left fun part _ => withoutEnd_encodeChars part
  · cases (cs.splitOn '\n').getLast? with
    | none => rfl
    | some last =>
      by_cases hl : last = []
      · simp [hl, encodeChars]
      · simp [hl, encodeChars_eq_nil_iff]

/-! ## Texts line by line -/

section Pieces

variable {α : Type} [DecidableEq α]

/-- a piece is its line and the end that was taken off -/
theorem exists_line_end (lf cr : α) (piece : List α) :
    ∃ ending, piece = bare lf cr piece ++ ending ∧ (ending = [] ∨ ending = [lf] ∨ ending = [cr, lf]) := by
  induction piece using List.reverseRecOn with
  | nil => exact ⟨[], rfl, Or.inl rfl⟩
  | append_singleton front c =>
    by_cases hc : c = lf
    · rw [hc, bare_append_lf, withoutEnd]
      split_ifs with h
      · obtain ⟨line, rfl⟩ := List.getLast?_eq_some_iff.1 h
        exact ⟨[cr, lf], by simp, Or.inr (Or.inr rfl)⟩
      · exact ⟨[lf], rfl, Or.inr (Or.inl rfl)⟩
    · exact ⟨[], by simp [bare, hc], Or.inl rfl⟩

end Pieces

/-- **An input of which each line is a text is a text.** -/
theorem exists_text_of_lines {pieces : List Bytes} (h : ∀ piece ∈ pieces, ∃ line, bare 0x0A 0x0D piece = encode line) :
    ∃ cs, pieces.flatten = encodeChars cs := by
  induction pieces with
  | nil => exact ⟨[], rfl⟩
  | cons piece later ih =>
    obtain ⟨cs, hcs⟩ := ih fun piece mem => h piece (List.mem_cons_of_mem _ mem)
    obtain ⟨line, hline⟩ := h piece List.mem_cons_self
    obtain ⟨ending, whole, hending⟩ := exists_line_end 0x0A 0x0D piece
    obtain ⟨mark, hmark⟩ : ∃ mark, ending = encodeChars mark := by
      rcases hending with rfl | rfl | rfl
      · exact ⟨[], rfl⟩
      · exact ⟨['\n'], rfl⟩
      · exact ⟨['\r', '\n'], rfl⟩
    refine ⟨line.toList ++ mark ++ cs, ?_⟩
    rw [List.flatten_cons, hcs, whole, hline, hmark, encode, Utf8.encodeChars_append, Utf8.encodeChars_append]

end CheckReport.Text
