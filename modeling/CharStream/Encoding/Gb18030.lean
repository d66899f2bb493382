import CharStream.Encoding.Index
import CharStream.Encoding.Malformed

/-!
# gb18030 and GBK

**Pairs** have a lead from 81 to FE and a trail from 40 to FE without 7F, 190 to a lead.

**Sequences of four bytes** alternate between 81 to FE and the digits, and number every character
that no pair stands for. Their pointers follow the code points in ranges: between two gaps the
difference of pointer and code point stays the same. The table of ranges is complete.

GBK reads the same bytes. It writes the pairs only, and the euro sign as the byte 80.
-/

namespace CharStream.Encoding.Gb18030

/-- A selection of the index of the pairs. -/
def index : Index :=
  [(1, '丄'), (6176, '\u3000'), (6177, '、'), (6179, '·'), (6185, '—'), (6432, '€'), (6568, '－'),
   (6747, 'あ'), (6937, 'ア'), (7158, 'α'), (7323, 'Ж'), (7511, 'é'), (7533, 'ḿ'),
   (7886, '\uE000'), (11146, '豢'), (11566, '界'), (11813, '縜'), (13997, '世'), (14761, '文'),
   (15151, '形'), (16293, '中'), (21022, '锘')]

/-- Where each range of the four-byte sequences begins within the Basic Multilingual Plane: its
first pointer and its first code point. A range ends where the pointers of the next begin. -/
def ranges : List (Nat × Nat) :=
  [(0, 0x80), (36, 0xA5), (38, 0xA9), (45, 0xB2), (50, 0xB8), (81, 0xD8), (89, 0xE2), (95, 0xEB),
   (96, 0xEE), (100, 0xF4), (103, 0xF8), (104, 0xFB), (105, 0xFD), (109, 0x102), (126, 0x114),
   (133, 0x11C), (148, 0x12C), (172, 0x145), (175, 0x149), (179, 0x14E), (208, 0x16C),
   (306, 0x1CF), (307, 0x1D1), (308, 0x1D3), (309, 0x1D5), (310, 0x1D7), (311, 0x1D9),
   (312, 0x1DB), (313, 0x1DD), (341, 0x1FA), (428, 0x252), (443, 0x262), (544, 0x2C8),
   (545, 0x2CC), (558, 0x2DA), (741, 0x3A2), (742, 0x3AA), (749, 0x3C2), (750, 0x3CA),
   (805, 0x402), (819, 0x450), (820, 0x452), (7922, 0x2011), (7924, 0x2017), (7925, 0x201A),
   (7927, 0x201E), (7934, 0x2027), (7943, 0x2031), (7944, 0x2034), (7945, 0x2036), (7950, 0x203C),
   (8062, 0x20AD), (8148, 0x2104), (8149, 0x2106), (8152, 0x210A), (8164, 0x2117), (8174, 0x2122),
   (8236, 0x216C), (8240, 0x217A), (8262, 0x2194), (8264, 0x219A), (8374, 0x2209), (8380, 0x2210),
   (8381, 0x2212), (8384, 0x2216), (8388, 0x221B), (8390, 0x2221), (8392, 0x2224), (8393, 0x2226),
   (8394, 0x222C), (8396, 0x222F), (8401, 0x2238), (8406, 0x223E), (8416, 0x2249), (8419, 0x224D),
   (8424, 0x2253), (8437, 0x2262), (8439, 0x2268), (8445, 0x2270), (8482, 0x2296), (8485, 0x229A),
   (8496, 0x22A6), (8521, 0x22C0), (8603, 0x2313), (8936, 0x246A), (8946, 0x249C), (9046, 0x254C),
   (9050, 0x2574), (9063, 0x2590), (9066, 0x2596), (9076, 0x25A2), (9092, 0x25B4), (9100, 0x25BE),
   (9108, 0x25C8), (9111, 0x25CC), (9113, 0x25D0), (9131, 0x25E6), (9162, 0x2607), (9164, 0x260A),
   (9218, 0x2641), (9219, 0x2643), (11329, 0x2E82), (11331, 0x2E85), (11334, 0x2E89),
   (11336, 0x2E8D), (11346, 0x2E98), (11361, 0x2EA8), (11363, 0x2EAB), (11366, 0x2EAF),
   (11370, 0x2EB4), (11372, 0x2EB8), (11375, 0x2EBC), (11389, 0x2ECB), (11682, 0x2FFC),
   (11686, 0x3004), (11687, 0x3018), (11692, 0x301F), (11694, 0x302A), (11714, 0x303F),
   (11716, 0x3094), (11723, 0x309F), (11725, 0x30F7), (11730, 0x30FF), (11736, 0x312A),
   (11982, 0x322A), (11989, 0x3232), (12102, 0x32A4), (12336, 0x3390), (12348, 0x339F),
   (12350, 0x33A2), (12384, 0x33C5), (12393, 0x33CF), (12395, 0x33D3), (12397, 0x33D6),
   (12510, 0x3448), (12553, 0x3474), (12851, 0x359F), (12962, 0x360F), (12973, 0x361B),
   (13738, 0x3919), (13823, 0x396F), (13919, 0x39D1), (13933, 0x39E0), (14080, 0x3A74),
   (14298, 0x3B4F), (14585, 0x3C6F), (14698, 0x3CE1), (15583, 0x4057), (15847, 0x4160),
   (16318, 0x4338), (16434, 0x43AD), (16438, 0x43B2), (16481, 0x43DE), (16729, 0x44D7),
   (17102, 0x464D), (17122, 0x4662), (17315, 0x4724), (17320, 0x472A), (17402, 0x477D),
   (17418, 0x478E), (17859, 0x4948), (17909, 0x497B), (17911, 0x497E), (17915, 0x4984),
   (17916, 0x4987), (17936, 0x499C), (17939, 0x49A0), (17961, 0x49B8), (18664, 0x4C78),
   (18703, 0x4CA4), (18814, 0x4D1A), (18962, 0x4DAF), (19043, 0x9FA6), (33469, 0xE76C),
   (33470, 0xE7C8), (33471, 0xE7E7), (33484, 0xE815), (33485, 0xE819), (33490, 0xE81F),
   (33497, 0xE827), (33501, 0xE82D), (33505, 0xE833), (33513, 0xE83C), (33520, 0xE844),
   (33536, 0xE856), (33550, 0xE865), (37845, 0xF92D), (37921, 0xF97A), (37948, 0xF996),
   (38029, 0xF9E8), (38038, 0xF9F2), (38064, 0xFA10), (38065, 0xFA12), (38066, 0xFA15),
   (38069, 0xFA19), (38075, 0xFA22), (38076, 0xFA25), (38078, 0xFA2A), (39108, 0xFE32),
   (39109, 0xFE45), (39113, 0xFE53), (39114, 0xFE58), (39115, 0xFE67), (39116, 0xFE6C),
   (39265, 0xFF5F), (39394, 0xFFE6)]

/-- One past the last pointer of the Basic Multilingual Plane. -/
def planeEnd : Nat := 39420

/-- The pointer of U+10000; from there on, pointers and code points run in step. -/
def supplementaryStart : Nat := 189000

/-- The pointer of U+10FFFF. -/
def lastPointer : Nat := 1237575

/-- The one pointer that its range would give to a character with a pair of its own. -/
def strayPointer : Nat := 7457

/-- The character that the stray pointer stands for. -/
def strayChar : Char := '\uE7C7'

/-- One past the last pointer of the range before `later`. -/
def rangeEnd : List (Nat × Nat) → Nat
  | [] => planeEnd
  | (pointer, _) :: _ => pointer

/-- The code point of a pointer. -/
def codePointIn? (pointer : Nat) : List (Nat × Nat) → Option Nat
  | [] => none
  | (start, code) :: later =>
    if start ≤ pointer ∧ pointer < rangeEnd later then some (code + (pointer - start))
    else codePointIn? pointer later

/-- The pointer of a code point; in a gap between two ranges there is none. -/
def pointerIn? (code : Nat) : List (Nat × Nat) → Option Nat
  | [] => none
  | (start, first) :: later =>
    if first ≤ code ∧ start + (code - first) < rangeEnd later then some (start + (code - first))
    else pointerIn? code later

/-- The character of a four-byte pointer. -/
def rangeChar? (pointer : Nat) : Option Char :=
  if pointer = strayPointer then some strayChar
  else if supplementaryStart ≤ pointer ∧ pointer ≤ lastPointer then
    some (Char.ofNat (0x10000 + (pointer - supplementaryStart)))
  else (codePointIn? pointer ranges).map Char.ofNat

/-- The four-byte pointer of a character. -/
def rangePointer? (c : Char) : Option Nat :=
  if c = strayChar then some strayPointer
  else if 0x10000 ≤ c.toNat then some (supplementaryStart + (c.toNat - 0x10000))
  else pointerIn? c.toNat ranges

/-- The bytes read of a character that is not complete. -/
inductive State where
  | start
  | one (first : UInt8)
  | two (first second : UInt8)
  | three (first second third : UInt8)
deriving DecidableEq

/-- The second and fourth byte of a sequence of four. -/
def isDigit (b : UInt8) : Bool := 0x30 ≤ b && b ≤ 0x39

/-- The other bytes of a sequence of four, and the lead of a pair. -/
def isLead (b : UInt8) : Bool := 0x81 ≤ b && b ≤ 0xFE

/-- The character of a pair. -/
def pair? (lead trail : UInt8) : Option Char :=
  if (0x40 ≤ trail ∧ trail ≤ 0x7E) ∨ (0x80 ≤ trail ∧ trail ≤ 0xFE) then
    index.char? ((lead.toNat - 0x81) * 190
      + (trail.toNat - (if trail < 0x7F then 0x40 else 0x41)))
  else none

/-- The character of a sequence of four bytes. -/
def quad? (a b c d : UInt8) : Option Char :=
  rangeChar? ((((a.toNat - 0x81) * 10 + (b.toNat - 0x30)) * 126 + (c.toNat - 0x81)) * 10
    + (d.toNat - 0x30))

/-- Reads the first byte of a character. -/
def first (b : UInt8) : List Char × State :=
  if b < 0x80 then ([asciiChar b], .start)
  else if b = 0x80 then (['€'], .start)
  else if isLead b then ([], .one b)
  else ([replacementChar], .start)

/-- Reads the byte after a lead. -/
def second (lead b : UInt8) : List Char × State :=
  if isDigit b then ([], .two lead b) else (pairResult (pair? lead b) b, .start)

/-- Reads one byte. When a sequence of four breaks off, its lead alone is the error: the digit
after it is a character, and what follows is read anew. -/
def step (s : State) (b : UInt8) : List Char × State :=
  match s with
  | .start => first b
  | .one l => second l b
  | .two l d =>
    if isLead b then ([], .three l d b)
    else
      let (cs, s) := first b
      (replacementChar :: asciiChar d :: cs, s)
  | .three l d m =>
    if isDigit b then ([(quad? l d m b).getD replacementChar], .start)
    else
      let (cs, s) := second m b
      (replacementChar :: asciiChar d :: cs, s)

/-- What the end of the input leaves: all bytes that wait are one error. -/
def finish : State → List Char
  | .start => []
  | _ => [replacementChar]

/-- The pair of a character. -/
def encodePair (c : Char) : Option (List UInt8) := do
  let pointer ← index.pointer? c
  let trail := pointer % 190
  some [(pointer / 190 + 0x81).toUInt8, (trail + if trail < 0x3F then 0x40 else 0x41).toUInt8]

/-- The four bytes of a character. -/
def encodeQuad (c : Char) : Option (List UInt8) := do
  let pointer ← rangePointer? c
  some [(pointer / 12600 + 0x81).toUInt8, (pointer / 1260 % 10 + 0x30).toUInt8,
    (pointer / 10 % 126 + 0x81).toUInt8, (pointer % 10 + 0x30).toUInt8]

/-- The bytes of a character in gb18030: a pair if there is one, else four bytes. -/
def encode (c : Char) : Option (List UInt8) :=
  if c.toNat < 0x80 then some [c.toNat.toUInt8] else (encodePair c).or (encodeQuad c)

/-- The bytes of a character in GBK. -/
def encodeGbk (c : Char) : Option (List UInt8) :=
  if c.toNat < 0x80 then some [c.toNat.toUInt8]
  else if c = '€' then some [0x80]
  else encodePair c

end CharStream.Encoding.Gb18030
