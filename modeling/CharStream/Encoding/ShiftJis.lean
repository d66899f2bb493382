import CharStream.Encoding.Jis
import CharStream.Encoding.Malformed

/-!
# Shift_JIS

ASCII and U+0080 are single bytes, and so are the halfwidth katakana, A1 to DF. All else is a pair
that splits the pointer by 188: leads run from 81 to 9F and from E0 on, trails leave out 7F. The
leads from F0 on reach the user-defined characters from U+E000.
-/

namespace CharStream.Encoding.ShiftJis

/-- The pointers of the user-defined characters, which begin at U+E000. -/
def userDefinedStart : Nat := 8836

/-- One past the last of them. -/
def userDefinedEnd : Nat := 10716

/-- The pointer of a pair, if the trail is in range. -/
def pointerOf? (lead trail : UInt8) : Option Nat :=
  if (0x40 ≤ trail ∧ trail ≤ 0x7E) ∨ (0x80 ≤ trail ∧ trail ≤ 0xFC) then
    some ((lead.toNat - (if lead < 0xA0 then 0x81 else 0xC1)) * 188
      + (trail.toNat - (if trail < 0x7F then 0x40 else 0x41)))
  else none

/-- The character of a pair. -/
def pair? (lead trail : UInt8) : Option Char := do
  let pointer ← pointerOf? lead trail
  if userDefinedStart ≤ pointer ∧ pointer < userDefinedEnd then
    some (Char.ofNat (0xE000 + (pointer - userDefinedStart)))
  else Jis.index.char? pointer

/-- Reads one byte; the state is a lead byte that waits for its trail. -/
def step (lead : Option UInt8) (b : UInt8) : List Char × Option UInt8 :=
  match lead with
  | some l => (pairResult (pair? l b) b, none)
  | none =>
    if b ≤ 0x80 then ([asciiChar b], none)
    else if 0xA1 ≤ b ∧ b ≤ 0xDF then ([Jis.halfwidthChar (b.toNat - 0xA1)], none)
    else if (0x81 ≤ b ∧ b ≤ 0x9F) ∨ (0xE0 ≤ b ∧ b ≤ 0xFC) then ([], some b)
    else ([replacementChar], none)

/-- The bytes of a character. -/
def encode (c : Char) : Option (List UInt8) :=
  if c.toNat ≤ 0x80 then some [c.toNat.toUInt8]
  else if c = '\u00A5' then some [0x5C]
  else if c = '\u203E' then some [0x7E]
  else match Jis.halfwidth? c with
    | some place => some [(0xA1 + place).toUInt8]
    | none => do
      let pointer ← Jis.pointer? c
      let lead := pointer / 188
      let trail := pointer % 188
      some [(lead + if lead < 0x1F then 0x81 else 0xC1).toUInt8,
        (trail + if trail < 0x3F then 0x40 else 0x41).toUInt8]

end CharStream.Encoding.ShiftJis
