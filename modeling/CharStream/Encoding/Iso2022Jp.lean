import CharStream.Encoding.Jis
import CharStream.Encoding.Malformed

/-!
# ISO-2022-JP

All bytes are below 80; escape sequences of three bytes switch between character sets.

**Reading.** The state is the character set in force and what has been read of an escape sequence
or of a pair. An escape sequence that is broken off is one error, and its bytes after the escape
are read again as text. Two escape sequences with no text in between are an error too: the first
one served nothing.

**Writing.** Each character is written by itself, so a character outside ASCII comes with the
escape to its set in front and the escape to ASCII behind.
-/

namespace CharStream.Encoding.Iso2022Jp

/-- The character sets that an escape sequence selects. -/
inductive Charset where
  | ascii
  | roman
  | katakana
  | jisX0208
deriving DecidableEq

/-- How far the decoder is within a pair or an escape sequence. -/
inductive Phase where
  /-- Between characters. -/
  | text
  /-- After the first byte of a pair. -/
  | trail (lead : UInt8)
  /-- After the escape byte. -/
  | escape
  /-- After the escape byte and `24` or `28`. -/
  | escapeSet (kind : UInt8)
deriving DecidableEq

/-- The state of the decoder. `idle` says that nothing was decoded since the last switch. -/
structure State where
  charset : Charset := .ascii
  phase : Phase := .text
  idle : Bool := false
deriving DecidableEq

/-- The escape byte. -/
def esc : UInt8 := 0x1B

/-- A byte that stands for itself in ASCII: no shift and no escape. -/
def isPlain (b : UInt8) : Bool := b < 0x80 && b != 0x0E && b != 0x0F && b != esc

/-- The set that an escape sequence with the bytes `kind` and `b` selects. -/
def charset? (kind b : UInt8) : Option Charset :=
  if kind = 0x28 ∧ b = 0x42 then some .ascii
  else if kind = 0x28 ∧ b = 0x4A then some .roman
  else if kind = 0x28 ∧ b = 0x49 then some .katakana
  else if kind = 0x24 ∧ (b = 0x40 ∨ b = 0x42) then some .jisX0208
  else none

/-- Reads a byte between characters. -/
def textStep (set : Charset) (idle : Bool) (b : UInt8) : List Char × State :=
  if b = esc then ([], ⟨set, .escape, idle⟩)
  else match set with
    | .ascii => ([if isPlain b then asciiChar b else replacementChar], ⟨set, .text, false⟩)
    | .roman =>
      ([if b = 0x5C then '\u00A5' else if b = 0x7E then '\u203E'
        else if isPlain b then asciiChar b else replacementChar], ⟨set, .text, false⟩)
    | .katakana =>
      ([if 0x21 ≤ b ∧ b ≤ 0x5F then Jis.halfwidthChar (b.toNat - 0x21) else replacementChar],
        ⟨set, .text, false⟩)
    | .jisX0208 =>
      if 0x21 ≤ b ∧ b ≤ 0x7E then ([], ⟨set, .trail b, false⟩)
      else ([replacementChar], ⟨set, .text, false⟩)

/-- Reads a byte outside escape sequences. -/
def charStep (s : State) (b : UInt8) : List Char × State :=
  match s.phase with
  | .trail lead =>
    if b = esc then ([replacementChar], { s with phase := .escape })
    else if 0x21 ≤ b ∧ b ≤ 0x7E then
      ([(Jis.char? (lead.toNat - 0x21) (b.toNat - 0x21)).getD replacementChar],
        { s with phase := .text })
    else ([replacementChar], { s with phase := .text })
  | _ => textStep s.charset s.idle b

/-- Reads one byte. -/
def step (s : State) (b : UInt8) : List Char × State :=
  match s.phase with
  | .text | .trail _ => charStep s b
  | .escape =>
    if b = 0x24 ∨ b = 0x28 then ([], { s with phase := .escapeSet b })
    else
      let (cs, s) := textStep s.charset false b
      (replacementChar :: cs, s)
  | .escapeSet kind =>
    match charset? kind b with
    | some set => (if s.idle then [replacementChar] else [], ⟨set, .text, true⟩)
    | none =>
      let (cs, s) := textStep s.charset false kind
      let (ds, s) := charStep s b
      (replacementChar :: (cs ++ ds), s)

/-- What the end of the input leaves. An escape sequence that lacks only its last byte has one byte
that is read again, and may so begin a pair that has no end. -/
def finish (s : State) : List Char :=
  match s.phase with
  | .text => []
  | .trail _ => [replacementChar]
  | .escape => [replacementChar]
  | .escapeSet kind =>
    let (cs, s) := textStep s.charset false kind
    replacementChar :: (cs ++ if s.phase = .text then [] else [replacementChar])

/-- The bytes of a character, from ASCII back to ASCII. -/
def encode (c : Char) : Option (List UInt8) :=
  if c.toNat < 0x80 then
    if isPlain c.toNat.toUInt8 then some [c.toNat.toUInt8] else none
  else if c = '\u00A5' then some [esc, 0x28, 0x4A, 0x5C, esc, 0x28, 0x42]
  else if c = '\u203E' then some [esc, 0x28, 0x4A, 0x7E, esc, 0x28, 0x42]
  else do
    let form := match Jis.halfwidth? c with
      | some place => Jis.fullwidthForms.getD place c
      | none => c
    let pointer ← Jis.pointer? form
    some [esc, 0x24, 0x42, (pointer / 94 + 0x21).toUInt8, (pointer % 94 + 0x21).toUInt8,
      esc, 0x28, 0x42]

end CharStream.Encoding.Iso2022Jp
