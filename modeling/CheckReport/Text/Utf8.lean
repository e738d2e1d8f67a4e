/-
UTF-8.

`encode` writes a text as bytes. `units` reads any bytes: each unit is a character, or a maximal run of bytes that
starts like a character and is none (`broken`), or such a run that the input cuts short (`cut`). `decode` accepts the
inputs without broken and cut units and otherwise says where the first one starts; `lossy` reads every input and
writes U+FFFD for each such unit.
-/

namespace CheckReport.Text.Utf8

abbrev Bytes := List UInt8

/-- the bytes of one character -/
def encodeChar (c : Char) : Bytes :=
  let n := c.toNat
  if n < 0x80 then [n.toUInt8]
  else if n < 0x800 then [(0xC0 + n / 64).toUInt8, (0x80 + n % 64).toUInt8]
  else if n < 0x10000 then [(0xE0 + n / 4096).toUInt8, (0x80 + n / 64 % 64).toUInt8, (0x80 + n % 64).toUInt8]
  else
    [(0xF0 + n / 262144).toUInt8, (0x80 + n / 4096 % 64).toUInt8, (0x80 + n / 64 % 64).toUInt8,
      (0x80 + n % 64).toUInt8]

def encodeChars (cs : List Char) : Bytes := cs.flatMap encodeChar

/-- the bytes of a text -/
def encode (s : String) : Bytes := encodeChars s.toList

/-- one unit of an input: a character, a run of `width` bytes that is none, or a run cut short by the end -/
inductive Unit where
  | char (c : Char)
  | broken (width : Nat)
  | cut (width : Nat)
  deriving DecidableEq, Repr

/-- number of input bytes that a unit takes -/
def Unit.width : Unit → Nat
  | .char c => (encodeChar c).length
  | .broken w => w
  | .cut w => w

/-- the bytes that may stand second after the given first byte -/
def secondOk (first second : UInt8) : Bool :=
  let b := second.toNat
  if first = 0xE0 then 0xA0 ≤ b && b ≤ 0xBF
  else if first = 0xED then 0x80 ≤ b && b ≤ 0x9F
  else if first = 0xF0 then 0x90 ≤ b && b ≤ 0xBF
  else if first = 0xF4 then 0x80 ≤ b && b ≤ 0x8F
  else 0x80 ≤ b && b ≤ 0xBF

def isTail (b : UInt8) : Bool := 0x80 ≤ b.toNat && b.toNat ≤ 0xBF

/-- length of the character that the byte starts, 0 if it starts none -/
def lengthOf (first : UInt8) : Nat :=
  let b := first.toNat
  if b < 0x80 then 1
  else if b < 0xC2 then 0
  else if b < 0xE0 then 2
  else if b < 0xF0 then 3
  else if b < 0xF5 then 4
  else 0

def join2 (a b : UInt8) : Char := Char.ofNat ((a.toNat - 0xC0) * 64 + (b.toNat - 0x80))

def join3 (a b c : UInt8) : Char :=
  Char.ofNat ((a.toNat - 0xE0) * 4096 + (b.toNat - 0x80) * 64 + (c.toNat - 0x80))

def join4 (a b c d : UInt8) : Char :=
  Char.ofNat ((a.toNat - 0xF0) * 262144 + (b.toNat - 0x80) * 4096 + (c.toNat - 0x80) * 64 + (d.toNat - 0x80))

/-- the units of an input, in order -/
def units : Bytes → List Unit
  | [] => []
  | a :: r =>
    match lengthOf a with
    | 0 => .broken 1 :: units r
    | 1 => .char (Char.ofNat a.toNat) :: units r
    | n =>
      match r with
      | [] => [.cut 1]
      | b :: r1 =>
        if !secondOk a b then .broken 1 :: units (b :: r1)
        else if n = 2 then .char (join2 a b) :: units r1
        else
          match r1 with
          | [] => [.cut 2]
          | c :: r2 =>
            if !isTail c then .broken 2 :: units (c :: r2)
            else if n = 3 then .char (join3 a b c) :: units r2
            else
              match r2 with
              | [] => [.cut 3]
              | d :: r3 =>
                if !isTail d then .broken 3 :: units (d :: r3)
                else .char (join4 a b c d) :: units r3

/-- where decoding stops: `width = none` says that the input ends inside a character -/
structure Fault where
  offset : Nat
  width : Option Nat
  deriving DecidableEq, Repr

def Fault.message (f : Fault) : String :=
  match f.width with
  | some w => s!"invalid utf-8 sequence of {w} bytes from index {f.offset}"
  | none => s!"incomplete utf-8 byte sequence from index {f.offset}"

/-- the characters of a unit sequence, or the fault of its first unit that is none -/
def charsFrom (offset : Nat) : List Unit → Except Fault (List Char)
  | [] => .ok []
  | .char c :: us => (charsFrom (offset + (encodeChar c).length) us).map (c :: ·)
  | .broken w :: _ => .error ⟨offset, some w⟩
  | .cut _ :: _ => .error ⟨offset, none⟩

/-- the characters of an input that is UTF-8 throughout -/
def decodeChars (bytes : Bytes) : Except Fault (List Char) := charsFrom 0 (units bytes)

/-- the text of an input that is UTF-8 throughout -/
def decode (bytes : Bytes) : Except Fault String := (decodeChars bytes).map String.ofList

/-- the text of an input that is UTF-8 throughout, else nothing -/
def decode? (bytes : Bytes) : Option String := (decode bytes).toOption

/-- U+FFFD, written for what is no character -/
def replacement : Char := Char.ofNat 0xFFFD

def Unit.shown : Unit → Char
  | .char c => c
  | _ => replacement

/-- the text of any input -/
def lossy (bytes : Bytes) : String := String.ofList ((units bytes).map Unit.shown)

end CheckReport.Text.Utf8
