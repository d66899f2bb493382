import CharStream.Encoding.Index
import CharStream.Encoding.Malformed

/-!
# Big5

Pairs of a lead from 81 to FE and a trail from 40 to 7E or A1 to FE, 157 to a lead. Four pairs
stand for a letter and a combining mark. The leads below A1 are read but never written.
-/

namespace CharStream.Encoding.Big5

/-- A selection of the index of the character set. -/
def index : Index :=
  [(943, '䰲'), (5024, '\u3000'), (5026, '、'), (5040, '·'), (5048, '—'), (5134, '－'),
   (5366, 'α'), (5465, '€'), (5495, '一'), (5496, '乙'), (5561, '中'), (5626, '文'), (5652, '世'),
   (6854, '界'), (10967, 'あ'), (11050, 'ア'), (11142, 'Ж')]

/-- The pointers that stand for two characters each. -/
def doubled : List (Nat × List Char) :=
  [(1133, ['Ê', '\u0304']), (1135, ['Ê', '\u030C']), (1164, ['ê', '\u0304']),
   (1166, ['ê', '\u030C'])]

/-- The first pointer that is written. -/
def writtenStart : Nat := (0xA1 - 0x81) * 157

/-- The pointer of a pair, if the trail is in range. -/
def pointerOf? (lead trail : UInt8) : Option Nat :=
  if (0x40 ≤ trail ∧ trail ≤ 0x7E) ∨ (0xA1 ≤ trail ∧ trail ≤ 0xFE) then
    some ((lead.toNat - 0x81) * 157
      + (trail.toNat - (if trail < 0x7F then 0x40 else 0x62)))
  else none

/-- What a pair decodes to. -/
def pairChars (lead trail : UInt8) : List Char :=
  match pointerOf? lead trail with
  | none => pairResult none trail
  | some pointer =>
    match doubled.lookup pointer with
    | some cs => cs
    | none => pairResult (index.char? pointer) trail

/-- Reads one byte; the state is a lead byte that waits for its trail. -/
def step (lead : Option UInt8) (b : UInt8) : List Char × Option UInt8 :=
  match lead with
  | some l => (pairChars l b, none)
  | none =>
    if b < 0x80 then ([asciiChar b], none)
    else if 0x81 ≤ b ∧ b ≤ 0xFE then ([], some b)
    else ([replacementChar], none)

/-- The bytes of a character. -/
def encode (c : Char) : Option (List UInt8) :=
  if c.toNat < 0x80 then some [c.toNat.toUInt8]
  else do
    let pointer ← Index.pointer? (index.filter (writtenStart ≤ ·.1)) c
    let trail := pointer % 157
    some [(pointer / 157 + 0x81).toUInt8, (trail + if trail < 0x3F then 0x40 else 0x62).toUInt8]

end CharStream.Encoding.Big5
