/-
UTF-8 there and back.

Reading and writing are inverse to each other: the bytes of a text are read as this text and no other bytes are. No
character is written as the beginning of another, nor as its end.

- `units_encodeChars`, `eq_encodeChars_of_units`: an input is read as characters throughout exactly if it is their
  bytes.
- `decode_eq_ok_iff`: what is read from an input is the text that is written as this input.
- `eq_of_starts`, `eq_of_ends`: a text that begins or ends with the bytes of a character begins or ends with it.
- `ascii_mem_encodeChar_iff`: a byte below 0x80 stands for its own character, wherever it stands.
- `zero_mem_encode_iff`: the byte zero stands for NUL and for nothing else.
-/
import CheckReport.Text.Utf8
import Mathlib.Tactic

namespace CheckReport.Text.Utf8

/-! ## Bytes as numbers -/

theorem toNat_toUInt8 {n : ℕ} (h : n < 256) : n.toUInt8.toNat = n := by
  rw [Nat.toUInt8_eq, UInt8.toNat_ofNat', Nat.mod_eq_of_lt h]

theorem toUInt8_eq {n : ℕ} {a : UInt8} (h : n = a.toNat) : n.toUInt8 = a := by
  rw [h, Nat.toUInt8_eq, UInt8.ofNat_toNat]

theorem toNat_ofNat {n : ℕ} (h : n.isValidChar) : (Char.ofNat n).toNat = n := by
  unfold Char.ofNat
  rw [dif_pos h]
  rfl

theorem lengthOf_eq_iff (a : UInt8) (n : ℕ) : lengthOf a = n ↔
    (n = 1 ∧ a.toNat < 0x80) ∨ (n = 2 ∧ 0xC2 ≤ a.toNat ∧ a.toNat < 0xE0) ∨ (n = 3 ∧ 0xE0 ≤ a.toNat ∧ a.toNat < 0xF0) ∨
      (n = 4 ∧ 0xF0 ≤ a.toNat ∧ a.toNat < 0xF5) ∨
      (n = 0 ∧ ((0x80 ≤ a.toNat ∧ a.toNat < 0xC2) ∨ 0xF5 ≤ a.toNat)) := by
  unfold lengthOf
  simp only
  split_ifs <;> omega

theorem lengthOf_le (a : UInt8) : lengthOf a ≤ 4 := by
  rcases (lengthOf_eq_iff a _).1 rfl with h | h | h | h | h <;> omega

theorem secondOk_iff (a b : UInt8) : secondOk a b = true ↔
    0x80 ≤ b.toNat ∧ b.toNat ≤ 0xBF ∧ (a.toNat = 0xE0 → 0xA0 ≤ b.toNat) ∧ (a.toNat = 0xED → b.toNat ≤ 0x9F) ∧
      (a.toNat = 0xF0 → 0x90 ≤ b.toNat) ∧ (a.toNat = 0xF4 → b.toNat ≤ 0x8F) := by
  have e0 : (0xE0 : UInt8).toNat = 0xE0 := rfl
  have ed : (0xED : UInt8).toNat = 0xED := rfl
  have f0 : (0xF0 : UInt8).toNat = 0xF0 := rfl
  have f4 : (0xF4 : UInt8).toNat = 0xF4 := rfl
  unfold secondOk
  simp only [← UInt8.toNat_inj, e0, ed, f0, f4]
  split_ifs <;> simp only [Bool.and_eq_true, decide_eq_true_iff] <;> omega

theorem isTail_iff (a : UInt8) : isTail a = true ↔ 0x80 ≤ a.toNat ∧ a.toNat ≤ 0xBF := by
  unfold isTail
  rw [Bool.and_eq_true, decide_eq_true_iff, decide_eq_true_iff]

/-! ## One character -/

section Shapes

variable {a b c d : UInt8} {rest : Bytes}

theorem units_one (h : lengthOf a = 1) : units (a :: rest) = .char (Char.ofNat a.toNat) :: units rest := by
  rw [units]
  simp only [h]

theorem units_two (h : lengthOf a = 2) (hb : secondOk a b = true) :
    units (a :: b :: rest) = .char (join2 a b) :: units rest := by
  rw [units]
  simp [h, hb]

theorem units_three (h : lengthOf a = 3) (hb : secondOk a b = true) (hc : isTail c = true) :
    units (a :: b :: c :: rest) = .char (join3 a b c) :: units rest := by
  rw [units]
  simp [h, hb, hc]

theorem units_four (h : lengthOf a = 4) (hb : secondOk a b = true) (hc : isTail c = true) (hd : isTail d = true) :
    units (a :: b :: c :: d :: rest) = .char (join4 a b c d) :: units rest := by
  rw [units]
  simp [h, hb, hc, hd]

theorem encodeChar_one (h : lengthOf a = 1) : encodeChar (Char.ofNat a.toNat) = [a] := by
  have range : a.toNat < 0x80 := by
    have := (lengthOf_eq_iff _ _).1 h
    omega
  have code : (Char.ofNat a.toNat).toNat = a.toNat := toNat_ofNat (Or.inl (by omega))
  unfold encodeChar
  simp only [code]
  rw [if_pos range, toUInt8_eq rfl]

theorem encodeChar_join2 (h : lengthOf a = 2) (hb : secondOk a b = true) : encodeChar (join2 a b) = [a, b] := by
  have first := (lengthOf_eq_iff _ _).1 h
  have second := (secondOk_iff _ _).1 hb
  have code : (join2 a b).toNat = (a.toNat - 0xC0) * 64 + (b.toNat - 0x80) := toNat_ofNat (Or.inl (by omega))
  unfold encodeChar
  simp only [code]
  rw [if_neg (by omega), if_pos (by omega), toUInt8_eq (a := a) (by omega), toUInt8_eq (a := b) (by omega)]

theorem encodeChar_join3 (h : lengthOf a = 3) (hb : secondOk a b = true) (hc : isTail c = true) :
    encodeChar (join3 a b c) = [a, b, c] := by
  have first := (lengthOf_eq_iff _ _).1 h
  have second := (secondOk_iff _ _).1 hb
  have third := (isTail_iff _).1 hc
  have code : (join3 a b c).toNat = (a.toNat - 0xE0) * 4096 + (b.toNat - 0x80) * 64 + (c.toNat - 0x80) := by
    refine toNat_ofNat ?_
    unfold Nat.isValidChar
    omega
  unfold encodeChar
  simp only [code]
  rw [if_neg (by omega), if_neg (by omega), if_pos (by omega), toUInt8_eq (a := a) (by omega),
    toUInt8_eq (a := b) (by omega), toUInt8_eq (a := c) (by omega)]

theorem encodeChar_join4 (h : lengthOf a = 4) (hb : secondOk a b = true) (hc : isTail c = true)
    (hd : isTail d = true) : encodeChar (join4 a b c d) = [a, b, c, d] := by
  have first := (lengthOf_eq_iff _ _).1 h
  have second := (secondOk_iff _ _).1 hb
  have third := (isTail_iff _).1 hc
  have fourth := (isTail_iff _).1 hd
  have code : (join4 a b c d).toNat =
      (a.toNat - 0xF0) * 262144 + (b.toNat - 0x80) * 4096 + (c.toNat - 0x80) * 64 + (d.toNat - 0x80) := by
    refine toNat_ofNat ?_
    unfold Nat.isValidChar
    omega
  unfold encodeChar
  simp only [code]
  rw [if_neg (by omega), if_neg (by omega), if_neg (by omega), toUInt8_eq (a := a) (by omega),
    toUInt8_eq (a := b) (by omega), toUInt8_eq (a := c) (by omega), toUInt8_eq (a := d) (by omega)]

end Shapes

/-- the bytes of a character are read as this character, whatever stands behind them -/
theorem units_encodeChar (c : Char) (rest : Bytes) : units (encodeChar c ++ rest) = .char c :: units rest := by
  have back : Char.ofNat c.toNat = c := Char.ofNat_toNat c
  have valid : c.toNat < 0xD800 ∨ 0xDFFF < c.toNat ∧ c.toNat < 0x110000 := c.valid
  generalize hn : c.toNat = n at back valid
  unfold encodeChar
  simp only [hn]
  split_ifs with one two three
  · have ha : n.toUInt8.toNat = n := toNat_toUInt8 (by omega)
    rw [List.cons_append, List.nil_append, units_one ((lengthOf_eq_iff _ _).2 (by omega)), ha, back]
  · have ha : (0xC0 + n / 64).toUInt8.toNat = 0xC0 + n / 64 := toNat_toUInt8 (by omega)
    have hb : (0x80 + n % 64).toUInt8.toNat = 0x80 + n % 64 := toNat_toUInt8 (by omega)
    have joined : join2 (0xC0 + n / 64).toUInt8 (0x80 + n % 64).toUInt8 = c := by
      rw [join2, ha, hb, show (0xC0 + n / 64 - 0xC0) * 64 + (0x80 + n % 64 - 0x80) = n by omega, back]
    simp only [List.cons_append, List.nil_append]
    rw [units_two ((lengthOf_eq_iff _ _).2 (by omega)) ((secondOk_iff _ _).2 (by omega)), joined]
  · have ha : (0xE0 + n / 4096).toUInt8.toNat = 0xE0 + n / 4096 := toNat_toUInt8 (by omega)
    have hb : (0x80 + n / 64 % 64).toUInt8.toNat = 0x80 + n / 64 % 64 := toNat_toUInt8 (by omega)
    have hc : (0x80 + n % 64).toUInt8.toNat = 0x80 + n % 64 := toNat_toUInt8 (by omega)
    have joined : join3 (0xE0 + n / 4096).toUInt8 (0x80 + n / 64 % 64).toUInt8 (0x80 + n % 64).toUInt8 = c := by
      rw [join3, ha, hb, hc, show (0xE0 + n / 4096 - 0xE0) * 4096 + (0x80 + n / 64 % 64 - 0x80) * 64 +
        (0x80 + n % 64 - 0x80) = n by omega, back]
    simp only [List.cons_append, List.nil_append]
    rw [units_three ((lengthOf_eq_iff _ _).2 (by omega)) ((secondOk_iff _ _).2 (by omega))
      ((isTail_iff _).2 (by omega)), joined]
  · have ha : (0xF0 + n / 262144).toUInt8.toNat = 0xF0 + n / 262144 := toNat_toUInt8 (by omega)
    have hb : (0x80 + n / 4096 % 64).toUInt8.toNat = 0x80 + n / 4096 % 64 := toNat_toUInt8 (by omega)
    have hc : (0x80 + n / 64 % 64).toUInt8.toNat = 0x80 + n / 64 % 64 := toNat_toUInt8 (by omega)
    have hd : (0x80 + n % 64).toUInt8.toNat = 0x80 + n % 64 := toNat_toUInt8 (by omega)
    have joined : join4 (0xF0 + n / 262144).toUInt8 (0x80 + n / 4096 % 64).toUInt8 (0x80 + n / 64 % 64).toUInt8
        (0x80 + n % 64).toUInt8 = c := by
      rw [join4, ha, hb, hc, hd, show (0xF0 + n / 262144 - 0xF0) * 262144 + (0x80 + n / 4096 % 64 - 0x80) * 4096 +
        (0x80 + n / 64 % 64 - 0x80) * 64 + (0x80 + n % 64 - 0x80) = n by omega, back]
    simp only [List.cons_append, List.nil_append]
    rw [units_four ((lengthOf_eq_iff _ _).2 (by omega)) ((secondOk_iff _ _).2 (by omega)) ((isTail_iff _).2 (by omega))
      ((isTail_iff _).2 (by omega)), joined]

/-- the first byte of a character is none of those that go on with one, and all others are -/
theorem encodeChar_shape (c : Char) :
    ∃ first tails, encodeChar c = first :: tails ∧ isTail first = false ∧ ∀ b ∈ tails, isTail b = true := by
  have valid : c.toNat < 0xD800 ∨ 0xDFFF < c.toNat ∧ c.toNat < 0x110000 := c.valid
  have tail : ∀ n, n < 64 → isTail (0x80 + n).toUInt8 = true := fun n hn => by
    rw [isTail_iff, toNat_toUInt8 (by omega)]
    omega
  have head : ∀ n, n < 0x80 ∨ 0xBF < n → n < 256 → isTail n.toUInt8 = false := fun n hn hb => by
    rw [← Bool.not_eq_true, isTail_iff, toNat_toUInt8 hb]
    omega
  unfold encodeChar
  simp only
  split_ifs
  · exact ⟨_, [], rfl, head _ (by omega) (by omega), by simp⟩
  · refine ⟨_, _, rfl, head _ (by omega) (by omega), ?_⟩
    simp only [List.mem_cons, List.not_mem_nil, or_false, forall_eq]
    exact tail _ (by omega)
  · refine ⟨_, _, rfl, head _ (by omega) (by omega), ?_⟩
    simp only [List.mem_cons, List.not_mem_nil, or_false, forall_eq_or_imp, forall_eq]
    exact ⟨tail _ (by omega), tail _ (by omega)⟩
  · refine ⟨_, _, rfl, head _ (by omega) (by omega), ?_⟩
    simp only [List.mem_cons, List.not_mem_nil, or_false, forall_eq_or_imp, forall_eq]
    exact ⟨tail _ (by omega), tail _ (by omega), tail _ (by omega)⟩

/-! ## A whole text -/

theorem encodeChars_append (cs ds : List Char) : encodeChars (cs ++ ds) = encodeChars cs ++ encodeChars ds :=
  List.flatMap_append

theorem encodeChars_singleton (c : Char) : encodeChars [c] = encodeChar c := List.flatMap_singleton ..

theorem units_encodeChars (cs : List Char) : units (encodeChars cs) = cs.map .char := by
  induction cs with
  | nil => rfl
  | cons c cs ih =>
    rw [encodeChars, List.flatMap_cons, units_encodeChar]
    exact congrArg (Unit.char c :: ·) ih

/-- an input that begins with a character is that of the characters which its units are, if its rest is -/
theorem eq_encodeChars_cons {bytes rest : Bytes} {c : Char} {cs : List Char} (front : bytes = encodeChar c ++ rest)
    (h : Unit.char c :: units rest = cs.map .char)
    (ih : ∀ cs, units rest = cs.map .char → rest = encodeChars cs) : bytes = encodeChars cs := by
  cases cs with
  | nil =>
    rw [List.map_nil] at h
    exact absurd h (List.cons_ne_nil _ _)
  | cons d cs =>
    rw [List.map_cons, List.cons.injEq, Unit.char.injEq] at h
    rw [front, ih cs h.2, h.1]
    rfl

theorem not_chars_cons {unit : Unit} {us : List Unit} (hu : ∀ c, unit ≠ .char c) (cs : List Char) :
    unit :: us ≠ cs.map .char := by
  intro h
  cases cs with
  | nil =>
    rw [List.map_nil] at h
    exact absurd h (List.cons_ne_nil _ _)
  | cons d cs =>
    rw [List.map_cons, List.cons.injEq] at h
    exact hu d h.1

theorem eq_encodeChars_of_units {bytes : Bytes} {cs : List Char} (h : units bytes = cs.map .char) :
    bytes = encodeChars cs := by
  -- four of the cases read a character, of one to four bytes; all others end in a unit that is none
  fun_induction units bytes generalizing cs with
  | case1 =>
    rw [List.map_eq_nil_iff.1 h.symm]
    rfl
  | case3 a rest ha ih => exact eq_encodeChars_cons (by rw [encodeChar_one ha]; rfl) h fun _ => ih
  | case6 a b rest hb _ _ ha ih =>
    rw [Bool.not_eq_true', Bool.not_eq_false] at hb
    exact eq_encodeChars_cons (by rw [encodeChar_join2 ha hb]; rfl) h fun _ => ih
  | case9 a b hb c rest hc _ _ _ ha ih =>
    rw [Bool.not_eq_true', Bool.not_eq_false] at hb hc
    exact eq_encodeChars_cons (by rw [encodeChar_join3 ha hb hc]; rfl) h fun _ => ih
  | case12 a b hb c hc d rest hd h0 h1 h2 h3 ih =>
    rw [Bool.not_eq_true', Bool.not_eq_false] at hb hc hd
    have ha : lengthOf a = 4 := by
      have h0 : lengthOf a ≠ 0 := h0
      have h1 : lengthOf a ≠ 1 := h1
      have := lengthOf_le a
      omega
    exact eq_encodeChars_cons (by rw [encodeChar_join4 ha hb hc hd]; rfl) h fun _ => ih
  | _ => exact absurd h (not_chars_cons (fun _ hx => by injection hx) cs)

theorem charsFrom_chars (offset : ℕ) (cs : List Char) : charsFrom offset (cs.map .char) = .ok cs := by
  induction cs generalizing offset with
  | nil => rfl
  | cons c cs ih =>
    rw [List.map_cons, charsFrom, ih]
    rfl

theorem chars_of_charsFrom {offset : ℕ} {us : List Unit} {cs : List Char} (h : charsFrom offset us = .ok cs) :
    us = cs.map .char := by
  induction us generalizing offset cs with
  | nil =>
    cases h
    rfl
  | cons unit us ih =>
    cases unit with
    | char c =>
      rw [charsFrom] at h
      cases hr : charsFrom (offset + (encodeChar c).length) us with
      | error fault =>
        rw [hr] at h
        cases h
      | ok ds =>
        rw [hr] at h
        cases h
        rw [ih hr, List.map_cons]
    | broken w => cases h
    | cut w => cases h

/-- **What is read from an input is the text that is written as this input.** -/
theorem decode_eq_ok_iff (bytes : Bytes) (text : String) : decode bytes = .ok text ↔ bytes = encode text := by
  unfold decode decodeChars encode
  constructor
  · intro h
    cases hc : charsFrom 0 (units bytes) with
    | error fault =>
      rw [hc] at h
      cases h
    | ok cs =>
      rw [hc] at h
      cases h
      rw [String.toList_ofList]
      exact eq_encodeChars_of_units (chars_of_charsFrom hc)
  · rintro rfl
    rw [units_encodeChars, charsFrom_chars]
    exact congrArg Except.ok String.ofList_toList

theorem decode?_eq_some_iff (bytes : Bytes) (text : String) : decode? bytes = some text ↔ bytes = encode text := by
  rw [← decode_eq_ok_iff, decode?]
  cases decode bytes with
  | error fault => simp [Except.toOption]
  | ok found => simp [Except.toOption]

theorem decode?_eq_none_iff (bytes : Bytes) : decode? bytes = none ↔ ∀ text, bytes ≠ encode text := by
  simp only [Option.eq_none_iff_forall_ne_some, ne_eq, decode?_eq_some_iff]

theorem lossy_encode (text : String) : lossy (encode text) = text := by
  have shown : Unit.shown ∘ Unit.char = id := rfl
  rw [lossy, encode, units_encodeChars, List.map_map, shown, List.map_id, String.ofList_toList]

theorem encodeChars_injective : Function.Injective encodeChars := by
  intro cs ds h
  have same : cs.map Unit.char = ds.map Unit.char := by rw [← units_encodeChars, h, units_encodeChars]
  exact (List.map_injective_iff.2 fun _ _ h => Unit.char.inj h) same

theorem encode_injective : Function.Injective encode := by
  intro s t h
  exact String.toList_inj.1 (encodeChars_injective h)

/-! ## Characters at the ends -/

theorem eq_of_starts {c d : Char} {cs : List Char} (h : encodeChar c <+: encodeChars (d :: cs)) : c = d := by
  obtain ⟨rest, h⟩ := h
  have same := congrArg units h
  rw [units_encodeChar, units_encodeChars, List.map_cons, List.cons.injEq, Unit.char.injEq] at same
  exact same.1

/-- the last byte that is no tail and the tails behind it are told by the whole -/
theorem last_character {xs ys t u : Bytes} {f g : UInt8} (h : xs ++ f :: t = ys ++ g :: u) (hf : isTail f = false)
    (hg : isTail g = false) (ht : ∀ b ∈ t, isTail b = true) (hu : ∀ b ∈ u, isTail b = true) : f :: t = g :: u := by
  rcases List.append_eq_append_iff.1 h with ⟨m, -, h⟩ | ⟨m, -, h⟩
  · cases m with
    | nil => exact h
    | cons x m =>
      rw [List.cons_append, List.cons.injEq] at h
      rw [ht g (by simp [h.2])] at hg
      cases hg
  · cases m with
    | nil => exact h.symm
    | cons x m =>
      rw [List.cons_append, List.cons.injEq] at h
      rw [hu f (by simp [h.2])] at hf
      cases hf

theorem eq_of_ends {c d : Char} {cs : List Char} (h : encodeChar c <:+ encodeChars (cs ++ [d])) : c = d := by
  obtain ⟨front, h⟩ := h
  obtain ⟨f, t, hc, hf, ht⟩ := encodeChar_shape c
  obtain ⟨g, u, hd, hg, hu⟩ := encodeChar_shape d
  rw [encodeChars_append, encodeChars_singleton, hc, hd] at h
  have same : encodeChars [c] = encodeChars [d] := by
    rw [encodeChars_singleton, encodeChars_singleton, hc, hd, last_character h hf hg ht hu]
  exact List.head_eq_of_cons_eq (encodeChars_injective same)

/-! ## Bytes that stand for themselves -/

theorem encodeChar_ascii {b : UInt8} (ascii : b.toNat < 0x80) : encodeChar (Char.ofNat b.toNat) = [b] :=
  encodeChar_one ((lengthOf_eq_iff b 1).2 (Or.inl ⟨rfl, ascii⟩))

/-- a byte below 0x80 stands for the character with its number and for nothing else -/
theorem ascii_mem_encodeChar_iff {b : UInt8} (ascii : b.toNat < 0x80) (c : Char) :
    b ∈ encodeChar c ↔ c = Char.ofNat b.toNat := by
  have valid : c.toNat < 0xD800 ∨ 0xDFFF < c.toNat ∧ c.toNat < 0x110000 := c.valid
  have high : ∀ n, 0x80 ≤ n → n < 256 → b ≠ n.toUInt8 := fun n low high same => by
    have number := congrArg UInt8.toNat same
    rw [toNat_toUInt8 high] at number
    omega
  constructor
  · intro mem
    unfold encodeChar at mem
    simp only at mem
    split_ifs at mem with one two three
    · rw [List.mem_singleton.1 mem, toNat_toUInt8 (by omega), Char.ofNat_toNat]
    all_goals simp only [List.mem_cons, List.not_mem_nil, or_false] at mem
    · rcases mem with h | h <;> exact absurd h (high _ (by omega) (by omega))
    · rcases mem with h | h | h <;> exact absurd h (high _ (by omega) (by omega))
    · rcases mem with h | h | h | h <;> exact absurd h (high _ (by omega) (by omega))
  · rintro rfl
    rw [encodeChar_ascii ascii]
    exact List.mem_singleton_self b

theorem ascii_mem_encodeChars_iff {b : UInt8} (ascii : b.toNat < 0x80) (cs : List Char) :
    b ∈ encodeChars cs ↔ Char.ofNat b.toNat ∈ cs := by
  rw [encodeChars, List.mem_flatMap]
  constructor
  · rintro ⟨c, mem, own⟩
    rw [← (ascii_mem_encodeChar_iff ascii c).1 own]
    exact mem
  · exact fun mem => ⟨_, mem, (ascii_mem_encodeChar_iff ascii _).2 rfl⟩

/-- a text ends with such a byte exactly if it ends with its character -/
theorem getLast?_encodeChars_iff {b : UInt8} (ascii : b.toNat < 0x80) (cs : List Char) :
    (encodeChars cs).getLast? = some b ↔ cs.getLast? = some (Char.ofNat b.toNat) := by
  induction cs using List.reverseRecOn with
  | nil => simp [encodeChars]
  | append_singleton front c =>
    obtain ⟨first, tails, hc, -, -⟩ := encodeChar_shape c
    rw [encodeChars_append, encodeChars_singleton, List.getLast?_append, List.getLast?_concat, Option.some.injEq]
    constructor
    · intro h
      have last : (encodeChar c).getLast? = some b := by
        rw [hc, List.getLast?_cons] at h ⊢
        exact h
      exact (ascii_mem_encodeChar_iff ascii c).1 (List.mem_of_getLast? last)
    · rintro rfl
      rw [encodeChar_ascii ascii]
      rfl

theorem zero_mem_encode_iff (s : String) : 0 ∈ encode s ↔ Char.ofNat 0 ∈ s.toList :=
  ascii_mem_encodeChars_iff (b := 0) (by decide) s.toList

end CheckReport.Text.Utf8
