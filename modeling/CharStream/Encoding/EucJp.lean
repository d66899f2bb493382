import CharStream.Encoding.Jis
import CharStream.Encoding.Malformed

/-!
# EUC-JP

A pair of bytes from A1 to FE gives row and cell of JIS X 0208. The byte 8E announces a halfwidth
katakana, and 8F a pair of the supplementary set JIS X 0212, of which no entry is known here.
-/

namespace CharStream.Encoding.EucJp

/-- The bytes that wait for the rest of a character. -/
inductive State where
  | start
  /-- A lead byte, perhaps 8E or 8F. -/
  | lead (b : UInt8)
  /-- The byte 8F and the first of its pair. -/
  | supplementary
deriving DecidableEq

/-- A byte of a pair. -/
def isCell (b : UInt8) : Bool := 0xA1 ≤ b && b ≤ 0xFE

/-- The character of a pair of JIS X 0208. -/
def pair? (lead trail : UInt8) : Option Char :=
  if isCell lead && isCell trail then Jis.char? (lead.toNat - 0xA1) (trail.toNat - 0xA1) else none

/-- Reads one byte. -/
def step (s : State) (b : UInt8) : List Char × State :=
  match s with
  | .lead l =>
    if l = 0x8E ∧ 0xA1 ≤ b ∧ b ≤ 0xDF then ([Jis.halfwidthChar (b.toNat - 0xA1)], .start)
    else if l = 0x8F ∧ isCell b then ([], .supplementary)
    else (pairResult (pair? l b) b, .start)
  | .supplementary => (pairResult none b, .start)
  | .start =>
    if b < 0x80 then ([asciiChar b], .start)
    else if b = 0x8E ∨ b = 0x8F ∨ isCell b then ([], .lead b)
    else ([replacementChar], .start)

/-- What the end of the input leaves. -/
def finish : State → List Char
  | .start => []
  | _ => [replacementChar]

/-- The bytes of a character. -/
def encode (c : Char) : Option (List UInt8) :=
  if c.toNat < 0x80 then some [c.toNat.toUInt8]
  else if c = '\u00A5' then some [0x5C]
  else if c = '\u203E' then some [0x7E]
  else match Jis.halfwidth? c with
    | some place => some [0x8E, (0xA1 + place).toUInt8]
    | none => do
      let pointer ← Jis.pointer? c
      some [(pointer / 94 + 0xA1).toUInt8, (pointer % 94 + 0xA1).toUInt8]

end CharStream.Encoding.EucJp
