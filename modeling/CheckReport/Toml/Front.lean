/-
Reading from the front of a TOML text.

A reader gives a value and what is left of the text. A `Front` carries the proof that something was read, so that
readers can be called again on the rest.
-/

namespace CheckReport.Toml

/-- a value read from the front of `s`, and the rest -/
structure Front (α : Type) (s : List Char) where
  value : α
  rest : List Char
  shorter : rest.length < s.length

namespace Front

variable {α β γ : Type} {s t : List Char}

/-- a value read from the first character -/
def head (value : α) (c : Char) (r : List Char) : Front α (c :: r) := ⟨value, r, Nat.lt_succ_self r.length⟩

/-- the value changed, the text seen with more in front -/
def map (f : α → β) (front : Front α s) (le : s.length ≤ t.length) : Front β t :=
  ⟨f front.value, front.rest, Nat.lt_of_lt_of_le front.shorter le⟩

/-- the value changed, the text seen with one more character in front -/
def after (f : α → β) (c : Char) (front : Front α s) : Front β (c :: s) := front.map f (Nat.le_succ s.length)

/-- two readings, one behind the other -/
def join (f : α → β → γ) (front : Front α s) (more : Front β front.rest) : Front γ s :=
  ⟨f front.value more.value, more.rest, Nat.lt_trans more.shorter front.shorter⟩

theorem rest_lt_cons (front : Front α s) (c : Char) : front.rest.length < (c :: s).length :=
  Nat.lt_succ_of_lt front.shorter

end Front

/-- the character `c` -/
def mark? (c : Char) (s : List Char) : Option (Front Unit s) :=
  match s with
  | [] => none
  | d :: r => if d = c then some (.head () d r) else none

def isInlineBlank (c : Char) : Bool := c = ' ' || c = '\t'

/-- a character that may stand in a comment -/
def inComment (c : Char) : Bool := c = '\t' || (0x20 ≤ c.toNat && c.toNat ≤ 0x7E) || 0x80 ≤ c.toNat

/-- the text without spaces and tabs in front -/
def skipBlanks (s : List Char) : List Char := s.dropWhile isInlineBlank

/-- the text behind a line end; the end of the text is one -/
def lineEnd? : List Char → Option (List Char)
  | [] => some []
  | '\n' :: r => some r
  | '\r' :: '\n' :: r => some r
  | _ => none

/-- the text behind a comment, if there is one, and the line end -/
def closeLine? (s : List Char) : Option (List Char) :=
  match skipBlanks s with
  | '#' :: r => lineEnd? (r.dropWhile inComment)
  | r => lineEnd? r

/-- the text without blanks, line ends and comments in front; `commented` holds inside a comment -/
def skipLines (commented : Bool) : List Char → Option (List Char)
  | [] => some []
  | '\n' :: r => skipLines false r
  | '\r' :: '\n' :: r => skipLines false r
  | c :: r =>
    if commented then (if inComment c then skipLines true r else none)
    else if isInlineBlank c then skipLines false r
    else if c = '#' then skipLines true r
    else some (c :: r)

theorem length_dropWhile_le (p : Char → Bool) (s : List Char) : (s.dropWhile p).length ≤ s.length :=
  (List.dropWhile_sublist p).length_le

theorem length_drop_le (n : Nat) (s : List Char) : (s.drop n).length ≤ s.length := (List.drop_sublist n s).length_le

theorem length_skipBlanks_le (s : List Char) : (skipBlanks s).length ≤ s.length := length_dropWhile_le _ s

theorem length_lineEnd?_le {s r : List Char} (h : lineEnd? s = some r) : r.length ≤ s.length := by
  unfold lineEnd? at h
  split at h <;> grind

theorem length_closeLine?_le {s r : List Char} (h : closeLine? s = some r) : r.length ≤ s.length := by
  have le := length_skipBlanks_le s
  unfold closeLine? at h
  split at h
  · next t ht =>
    have h1 := length_lineEnd?_le h
    have h2 := length_dropWhile_le inComment t
    simp only [ht, List.length_cons] at le
    omega
  · exact Nat.le_trans (length_lineEnd?_le h) le

theorem length_skipLines_le {s r : List Char} (commented : Bool) (h : skipLines commented s = some r) :
    r.length ≤ s.length := by
  fun_induction skipLines commented s <;> grind

variable {α : Type} {s : List Char}

/-- what is read behind the blanks of `s`, and the blanks behind that skipped -/
def Front.trim (front : Front α (skipBlanks s)) : Front α s :=
  ⟨front.value, skipBlanks front.rest,
    Nat.lt_of_le_of_lt (length_skipBlanks_le front.rest) (Nat.lt_of_lt_of_le front.shorter (length_skipBlanks_le s))⟩

/-- the blanks behind skipped -/
def Front.skipBlanks (front : Front α s) : Front α s :=
  ⟨front.value, Toml.skipBlanks front.rest, Nat.lt_of_le_of_lt (length_skipBlanks_le front.rest) front.shorter⟩

/-- the comment and the line end behind skipped -/
def Front.closeLine? (front : Front α s) : Option (Front α s) :=
  match h : Toml.closeLine? front.rest with
  | none => none
  | some r => some ⟨front.value, r, Nat.lt_of_le_of_lt (length_closeLine?_le h) front.shorter⟩

/-- blanks, line ends and comments behind skipped -/
def Front.skipLines? (front : Front α s) : Option (Front α s) :=
  match h : skipLines false front.rest with
  | none => none
  | some r => some ⟨front.value, r, Nat.lt_of_le_of_lt (length_skipLines_le false h) front.shorter⟩

/-- what `read` reads behind blanks, line ends and comments -/
def behindLines? (read : (s : List Char) → Option (Front α s)) (s : List Char) : Option (Front α s) :=
  match h : skipLines false s with
  | none => none
  | some r => (read r).map fun front => front.map id (length_skipLines_le false h)

end CheckReport.Toml
