import CharStream.Encoding.Malformed

/-!
# UTF-8

**Writing.** A character takes one to four bytes, as the core library has it.

**Reading.** The decoder is a machine over single bytes. After a lead byte it knows how many
continuation bytes are to come and the range of the next one; the range is narrower after E0, ED,
F0 and F4, which rules out overlong forms, surrogates and values past U+10FFFF as early as
possible. A byte outside the range ends the broken sequence with one U+FFFD and is then read as a
first byte itself.

Main results: `encode_injective`, that no two texts have the same bytes.
-/

namespace CharStream.Encoding.Utf8

/-- The bytes of a text. -/
def encode (cs : List Char) : List UInt8 := cs.flatMap String.utf8EncodeChar

/-- Where the decoder stands. -/
inductive State where
  /-- Between characters. -/
  | start
  /-- The sequence read so far has the value `code`; a byte from `low` to `high` comes next, and
  `more` continuation bytes after that. -/
  | expect (code more : Nat) (low high : UInt8)
deriving DecidableEq

/-- Reads the first byte of a character. -/
def first (b : UInt8) : List Char × State :=
  if b < 0x80 then ([asciiChar b], .start)
  else if 0xC2 ≤ b ∧ b ≤ 0xDF then ([], .expect (b.toNat - 0xC0) 0 0x80 0xBF)
  else if b = 0xE0 then ([], .expect 0x0 1 0xA0 0xBF)
  else if b = 0xED then ([], .expect 0xD 1 0x80 0x9F)
  else if 0xE1 ≤ b ∧ b ≤ 0xEF then ([], .expect (b.toNat - 0xE0) 1 0x80 0xBF)
  else if b = 0xF0 then ([], .expect 0x0 2 0x90 0xBF)
  else if 0xF1 ≤ b ∧ b ≤ 0xF3 then ([], .expect (b.toNat - 0xF0) 2 0x80 0xBF)
  else if b = 0xF4 then ([], .expect 0x4 2 0x80 0x8F)
  else ([replacementChar], .start)

/-- Reads one byte. -/
def step (s : State) (b : UInt8) : List Char × State :=
  match s with
  | .start => first b
  | .expect code more low high =>
    if low ≤ b ∧ b ≤ high then
      let code := code * 64 + (b.toNat - 0x80)
      match more with
      | 0 => ([Char.ofNat code], .start)
      | more + 1 => ([], .expect code more 0x80 0xBF)
    else
      let (cs, s) := first b
      (replacementChar :: cs, s)

/-- What the end of the input leaves: an unfinished sequence is one error. -/
def finish : State → List Char
  | .start => []
  | .expect .. => [replacementChar]

/-! ## Bytes and characters -/

theorem encodeChar_of_lt {c : Char} (h : c.toNat < 0x80) :
    String.utf8EncodeChar c = [c.toNat.toUInt8] :=
  if_pos (Nat.le_of_lt_succ h)

/-- The bytes of a character that is not ASCII are not ASCII either. -/
theorem le_of_mem_encodeChar {c : Char} (h : 0x80 ≤ c.toNat) {b : UInt8}
    (hb : b ∈ String.utf8EncodeChar c) : 0x80 ≤ b.toNat := by
  have hc : ¬ c.val.toNat ≤ 127 := Nat.not_le_of_lt h
  have hbyte {n : Nat} (hn : 0x80 ≤ n ∧ n < 0x100) : 0x80 ≤ (UInt8.ofNat n).toNat := by
    rw [UInt8.toNat_ofNat_of_lt' hn.2]
    exact hn.1
  rw [String.utf8EncodeChar, if_neg hc] at hb
  split at hb
  · obtain rfl | rfl := by simpa only [List.mem_cons, List.not_mem_nil, or_false] using hb
    · exact hbyte (by omega)
    · exact hbyte (by omega)
  · split at hb
    · obtain rfl | rfl | rfl := by simpa only [List.mem_cons, List.not_mem_nil, or_false] using hb
      · exact hbyte (by omega)
      · exact hbyte (by omega)
      · exact hbyte (by omega)
    · obtain rfl | rfl | rfl | rfl := by
        simpa only [List.mem_cons, List.not_mem_nil, or_false] using hb
      · exact hbyte (by omega)
      · exact hbyte (by omega)
      · exact hbyte (by omega)
      · exact hbyte (by omega)

theorem encode_of_lt {cs : List Char} (h : ∀ c ∈ cs, c.toNat < 0x80) :
    encode cs = cs.map (·.toNat.toUInt8) := by
  induction cs with
  | nil => rfl
  | cons c cs ih =>
    obtain ⟨hc, hcs⟩ := List.forall_mem_cons.1 h
    rw [encode, List.flatMap_cons, encodeChar_of_lt hc, ← encode, ih hcs]
    rfl

/-- **Different texts have different bytes.** -/
theorem encode_injective : Function.Injective encode := by
  intro cs ds h
  have hbytes : cs.utf8Encode = ds.utf8Encode := congrArg List.toByteArray h
  have hchars := congrArg ByteArray.utf8Decode? hbytes
  rw [List.utf8Decode?_utf8Encode, List.utf8Decode?_utf8Encode] at hchars
  exact List.toArray_inj (Option.some.inj hchars)

end CharStream.Encoding.Utf8
