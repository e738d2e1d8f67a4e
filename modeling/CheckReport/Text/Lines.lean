/-
Lines.

`pieces` cuts a sequence after every line feed; gluing the pieces gives the sequence back (`flatten_pieces`). `bare`
takes the line end off one piece: the line feed, and one carriage return before it. A carriage return that no line
feed follows belongs to the line. `lines` is the lines of a text.

The sequence is a list of characters or of bytes, so the two marks are parameters.
-/

namespace CheckReport.Text

variable {α : Type} [DecidableEq α]

/-- cut after every `lf`; the last piece may lack one -/
def pieces (lf : α) : List α → List (List α)
  | [] => []
  | c :: cs =>
    if c = lf then [c] :: pieces lf cs
    else
      match pieces lf cs with
      | [] => [[c]]
      | p :: ps => (c :: p) :: ps

/-- the piece without its line end -/
def bare (lf cr : α) (piece : List α) : List α :=
  match piece.reverse with
  | [] => piece
  | last :: before =>
    if last = lf then
      match before with
      | [] => []
      | c :: front => if c = cr then front.reverse else before.reverse
    else piece

theorem flatten_pieces (lf : α) (cs : List α) : (pieces lf cs).flatten = cs := by
  induction cs with
  | nil => rfl
  | cons c cs ih =>
    by_cases h : c = lf
    · simp [pieces, h, ih]
    · simp only [pieces, h, if_false]
      cases hp : pieces lf cs with
      | nil => simp [hp] at ih; simp [ih]
      | cons p ps => simpa [hp] using ih

/-- the lines of a character sequence -/
def lineChars (cs : List Char) : List (List Char) := (pieces '\n' cs).map (bare '\n' '\r')

/-- the lines of a text -/
def lines (s : String) : List String := (lineChars s.toList).map String.ofList

end CheckReport.Text
