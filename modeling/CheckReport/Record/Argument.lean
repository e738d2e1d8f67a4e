/-
Arguments of a submission.

A record is named by its handle and submitted with a status and a time to live. Each of the three has a type whose
values are all acceptable, and a reader that says why a value is refused: `Handle.parse`, `Status.parse` and
`Ttl.ofMinutes`. What a reader accepts it leaves as it is (`Handle.parse_eq_ok_iff`, `Status.parse_eq_ok_iff`,
`Ttl.ofMinutes_eq_ok_iff`).
-/
import CheckReport.Text.Blank
import CheckReport.Text.Quoted

namespace CheckReport

/-- why an argument is refused -/
inductive ArgumentFault where
  | blankHandle
  | brokenHandle (raw : String)
  | blankStatus
  | negativeTtl (minutes : Int)
  | longTtl (minutes : Int)
  deriving DecidableEq, Repr

/-- a character that ends a line or a text for the programs that read a handle -/
def endsHandle (c : Char) : Bool := c = '\n' || c = '\r' || c = Char.ofNat 0

def isOneLine (s : String) : Bool := !s.toList.any endsHandle

theorem isOneLine_iff (s : String) :
    isOneLine s = true ↔ '\n' ∉ s.toList ∧ '\r' ∉ s.toList ∧ Char.ofNat 0 ∉ s.toList := by
  rw [isOneLine, Bool.not_eq_true', ← Bool.not_eq_true, List.any_eq_true]
  constructor
  · intro none
    have absent : ∀ c, endsHandle c = true → c ∉ s.toList := fun c ends mem => none ⟨c, mem, ends⟩
    exact ⟨absent _ rfl, absent _ rfl, absent _ rfl⟩
  · rintro ⟨lf, cr, nul⟩ ⟨c, mem, ends⟩
    simp only [endsHandle, Bool.or_eq_true, decide_eq_true_iff] at ends
    rcases ends with (rfl | rfl) | rfl
    · exact lf mem
    · exact cr mem
    · exact nul mem

/-- name of a record: the collector gave it, and it is the path of the record's file -/
structure Handle where
  text : String
  not_blank : Text.isBlankText text = false
  one_line : isOneLine text = true
  deriving DecidableEq, Repr

/-- outcome of a check; its words belong to the collector, so any text that is not blank will do -/
structure Status where
  token : String
  not_blank : Text.isBlankText token = false
  deriving DecidableEq, Repr

/-- greatest number of minutes that a collector reads back -/
def maxTtl : Nat := 2147483647

/-- how many minutes a status stays fresh -/
structure Ttl where
  minutes : Nat
  le_max : minutes ≤ maxTtl
  deriving DecidableEq, Repr

def ArgumentFault.message : ArgumentFault → String
  | .blankHandle => "record handle cannot be empty"
  | .brokenHandle raw => "record handle must be a single line: " ++ Text.quoted raw
  | .blankStatus => "status cannot be empty"
  | .negativeTtl n => s!"ttl must be >= 0, got {n}"
  | .longTtl n => s!"ttl must be <= {maxTtl}, got {n}"

namespace Handle

theorem text_injective {one two : Handle} (h : one.text = two.text) : one = two := by
  cases one
  cases two
  cases h
  rfl

def parse (raw : String) : Except ArgumentFault Handle :=
  if hb : Text.isBlankText raw = false then
    if hl : isOneLine raw = true then .ok ⟨raw, hb, hl⟩ else .error (.brokenHandle raw)
  else .error .blankHandle

theorem parse_eq_ok_iff (raw : String) (handle : Handle) : parse raw = .ok handle ↔ handle.text = raw := by
  cases handle
  grind [parse]

theorem parse_text (handle : Handle) : parse handle.text = .ok handle :=
  (parse_eq_ok_iff handle.text handle).2 rfl

end Handle

namespace Status

theorem token_injective {one two : Status} (h : one.token = two.token) : one = two := by
  cases one
  cases two
  cases h
  rfl

/-- the words that a collector is known to understand -/
def known : List String := ["ALRT", "WARN", "OKAY", "NONE"]

def isKnown (status : Status) : Bool := known.contains status.token

def parse (token : String) : Except ArgumentFault Status :=
  if h : Text.isBlankText token = false then .ok ⟨token, h⟩ else .error .blankStatus

theorem parse_eq_ok_iff (token : String) (status : Status) : parse token = .ok status ↔ status.token = token := by
  cases status
  grind [parse]

theorem blank_of_parse_error {token : String} {fault : ArgumentFault} (h : parse token = .error fault) :
    Text.isBlankText token = true := by
  unfold parse at h
  split at h
  · cases h
  · rename_i hb
    exact eq_true_of_ne_false hb

end Status

namespace Ttl

def ofMinutes (minutes : Int) : Except ArgumentFault Ttl :=
  if minutes < 0 then .error (.negativeTtl minutes)
  else if h : minutes.toNat ≤ maxTtl then .ok ⟨minutes.toNat, h⟩
  else .error (.longTtl minutes)

def text (ttl : Ttl) : String := toString ttl.minutes

theorem ofMinutes_eq_ok_iff (minutes : Int) (ttl : Ttl) :
    ofMinutes minutes = .ok ttl ↔ (ttl.minutes : Int) = minutes := by
  cases ttl
  grind [ofMinutes]

theorem outside_of_ofMinutes_error {minutes : Int} {fault : ArgumentFault} (h : ofMinutes minutes = .error fault) :
    minutes < 0 ∨ (maxTtl : Int) < minutes := by
  unfold ofMinutes at h
  split at h
  · exact Or.inl ‹_›
  · split at h
    · cases h
    · right
      omega

end Ttl

end CheckReport
