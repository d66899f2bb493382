import CharStream.Encoding.Index
import CharStream.Encoding.Malformed

/-!
# EUC-KR

Pairs of a lead from 81 to FE and a trail from 41 to FE, 190 to a lead.
-/

namespace CharStream.Encoding.EucKr

/-- A selection of the index of the Korean character set. -/
def index : Index :=
  [(6176, '\u3000'), (6177, '、'), (6179, '·'), (6435, '€'), (6568, '－'), (7000, 'α'),
   (7887, 'あ'), (8077, 'ア'), (8273, 'Ж'), (8930, '캚'), (9026, '가'), (13444, '한'), (14538, '界'),
   (16909, '文'), (18341, '世'), (21448, '中')]

/-- The character of a pair. -/
def pair? (lead trail : UInt8) : Option Char :=
  if 0x41 ≤ trail ∧ trail ≤ 0xFE then
    index.char? ((lead.toNat - 0x81) * 190 + (trail.toNat - 0x41))
  else none

/-- Reads one byte; the state is a lead byte that waits for its trail. -/
def step (lead : Option UInt8) (b : UInt8) : List Char × Option UInt8 :=
  match lead with
  | some l => (pairResult (pair? l b) b, none)
  | none =>
    if b < 0x80 then ([asciiChar b], none)
    else if 0x81 ≤ b ∧ b ≤ 0xFE then ([], some b)
    else ([replacementChar], none)

/-- The bytes of a character. -/
def encode (c : Char) : Option (List UInt8) :=
  if c.toNat < 0x80 then some [c.toNat.toUInt8]
  else do
    let pointer ← index.pointer? c
    some [(pointer / 190 + 0x81).toUInt8, (pointer % 190 + 0x41).toUInt8]

end CharStream.Encoding.EucKr
