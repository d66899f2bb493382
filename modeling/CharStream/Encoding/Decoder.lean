import CharStream.Encoding.Basic
import CharStream.Encoding.Big5
import CharStream.Encoding.EucJp
import CharStream.Encoding.EucKr
import CharStream.Encoding.Gb18030
import CharStream.Encoding.Iso2022Jp
import CharStream.Encoding.ShiftJis
import CharStream.Encoding.Utf16
import CharStream.Encoding.Utf8

/-!
# Decoding a stream of bytes

A decoder reads byte after byte and hands out characters as soon as the bytes determine them, so
it does not matter into which pieces the bytes are cut.

**Byte order marks.** The first bytes of a stream may be the mark of UTF-8 (EF BB BF), UTF-16BE
(FE FF) or UTF-16LE (FF FE). A mark overrides the encoding that was asked for and is not part of
the text. The decoder holds back at most two bytes until it knows; if they are no mark after all,
they are decoded like any others.

Main results: `feed_append`, that two pieces in turn decode as the two in one.
-/

namespace CharStream.Encoding

/-! ## One encoding -/

/-- Where the decoding of one encoding stands. -/
inductive DecodeState where
  | utf8 (s : Utf8.State)
  | utf16 (order : Utf16.ByteOrder) (s : Utf16.State)
  /-- `reported` says that the one error was handed out. -/
  | replacement (reported : Bool)
  | singleByte (table : SingleByte)
  | shiftJis (lead : Option UInt8)
  | eucJp (s : EucJp.State)
  | iso2022Jp (s : Iso2022Jp.State)
  | eucKr (lead : Option UInt8)
  | gb18030 (s : Gb18030.State)
  | big5 (lead : Option UInt8)
deriving DecidableEq

/-- The state at the start of a text. -/
def DecodeState.start : Encoding → DecodeState
  | .utf8 => .utf8 .start
  | .utf16be => .utf16 .big {}
  | .utf16le => .utf16 .little {}
  | .replacement => .replacement false
  | .singleByte table => .singleByte table
  | .shiftJis => .shiftJis none
  | .eucJp => .eucJp .start
  | .iso2022Jp => .iso2022Jp {}
  | .eucKr => .eucKr none
  | .gbk | .gb18030 => .gb18030 .start
  | .big5 => .big5 none

/-- Reads one byte. -/
def DecodeState.step (d : DecodeState) (b : UInt8) : List Char × DecodeState :=
  match d with
  | .utf8 s => let (cs, s) := Utf8.step s b; (cs, .utf8 s)
  | .utf16 order s => let (cs, s) := Utf16.step order s b; (cs, .utf16 order s)
  | .replacement reported => (if reported then [] else [replacementChar], .replacement true)
  | .singleByte table => ([(table.decode b).getD replacementChar], d)
  | .shiftJis lead => let (cs, lead) := ShiftJis.step lead b; (cs, .shiftJis lead)
  | .eucJp s => let (cs, s) := EucJp.step s b; (cs, .eucJp s)
  | .iso2022Jp s => let (cs, s) := Iso2022Jp.step s b; (cs, .iso2022Jp s)
  | .eucKr lead => let (cs, lead) := EucKr.step lead b; (cs, .eucKr lead)
  | .gb18030 s => let (cs, s) := Gb18030.step s b; (cs, .gb18030 s)
  | .big5 lead => let (cs, lead) := Big5.step lead b; (cs, .big5 lead)

/-- What the end of the bytes leaves. -/
def DecodeState.finish : DecodeState → List Char
  | .utf8 s => Utf8.finish s
  | .utf16 _ s => Utf16.finish s
  | .replacement _ | .singleByte _ => []
  | .shiftJis lead | .eucKr lead | .big5 lead => if lead.isSome then [replacementChar] else []
  | .eucJp s => EucJp.finish s
  | .iso2022Jp s => Iso2022Jp.finish s
  | .gb18030 s => Gb18030.finish s

/-! ## Byte order marks -/

/-- The bytes at the start of a stream that may still become a byte order mark. -/
inductive BomStart where
  | none
  | ef
  | efbb
  | fe
  | ff
deriving DecidableEq

/-- The bytes held back. -/
def BomStart.bytes : BomStart → List UInt8
  | .none => []
  | .ef => [0xEF]
  | .efbb => [0xEF, 0xBB]
  | .fe => [0xFE]
  | .ff => [0xFF]

/-- What one more byte makes of the start of a mark: a longer start, a mark, or neither. -/
inductive BomStep where
  | more (held : BomStart)
  | mark (encoding : Encoding)
  | unmarked

/-- Compares one more byte with the marks. -/
def BomStart.step (held : BomStart) (b : UInt8) : BomStep :=
  match held with
  | .none =>
    if b = 0xEF then .more .ef
    else if b = 0xFE then .more .fe
    else if b = 0xFF then .more .ff
    else .unmarked
  | .ef => if b = 0xBB then .more .efbb else .unmarked
  | .efbb => if b = 0xBF then .mark .utf8 else .unmarked
  | .fe => if b = 0xFF then .mark .utf16be else .unmarked
  | .ff => if b = 0xFE then .mark .utf16le else .unmarked

/-- A decoder: an encoding, and either the start of a mark or the state of the decoding. -/
inductive Decoder where
  /-- No byte was decoded yet; those held back may become a mark. -/
  | sniffing (encoding : Encoding) (held : BomStart)
  | decoding (encoding : Encoding) (state : DecodeState)
deriving DecidableEq

namespace Decoder

/-- A decoder at the start of a stream, ready for a byte order mark. -/
def ofEncoding (encoding : Encoding) : Decoder := .sniffing encoding .none

/-- A decoder that takes a byte order mark for text. -/
def withoutMark (encoding : Encoding) : Decoder := .decoding encoding (.start encoding)

/-- The encoding in force; a mark changes it. -/
def encoding : Decoder → Encoding
  | .sniffing encoding _ | .decoding encoding _ => encoding

/-- Decodes bytes in one encoding, after the characters `out`. -/
def run (out : Array Char) (s : DecodeState) : List UInt8 → Array Char × DecodeState
  | [] => (out, s)
  | b :: bs =>
    let (cs, s) := s.step b
    run (out ++ cs) s bs

/-- Reads one byte. -/
def step (d : Decoder) (b : UInt8) : List Char × Decoder :=
  match d with
  | .decoding encoding s => let (cs, s) := s.step b; (cs, .decoding encoding s)
  | .sniffing encoding held =>
    match held.step b with
    | .more held => ([], .sniffing encoding held)
    | .mark found => ([], withoutMark found)
    | .unmarked =>
      let (out, s) := run #[] (.start encoding) (held.bytes ++ [b])
      (out.toList, .decoding encoding s)

/-- Reads bytes after the characters `out`. -/
def feedFrom (out : Array Char) (d : Decoder) : List UInt8 → Array Char × Decoder
  | [] => (out, d)
  | b :: bs =>
    let (cs, d) := d.step b
    feedFrom (out ++ cs) d bs

/-- Reads a piece of the stream: the characters that it completes, and the decoder after it. -/
def feed (d : Decoder) (bytes : List UInt8) : List Char × Decoder :=
  let (out, d) := feedFrom #[] d bytes
  (out.toList, d)

/-- What the end of the stream leaves. -/
def finish : Decoder → List Char
  | .decoding _ s => s.finish
  | .sniffing encoding held =>
    let (out, s) := run #[] (.start encoding) held.bytes
    out.toList ++ s.finish

/-! ## Pieces of a stream -/

theorem feedFrom_eq (out : Array Char) (d : Decoder) (bytes : List UInt8) :
    feedFrom out d bytes = (out ++ (d.feed bytes).1, (d.feed bytes).2) := by
  induction bytes generalizing out d with
  | nil => simp [feed, feedFrom]
  | cons b bs ih =>
    have h (out : Array Char) : feedFrom out d (b :: bs)
        = feedFrom (out ++ (d.step b).1) (d.step b).2 bs := rfl
    rw [feed, h, h, ih, ih (#[] ++ (d.step b).1)]
    exact Prod.ext (Array.ext' (by simp)) rfl

@[simp] theorem feed_nil (d : Decoder) : d.feed [] = ([], d) := rfl

theorem feed_cons (d : Decoder) (b : UInt8) (bs : List UInt8) :
    d.feed (b :: bs) = ((d.step b).1 ++ ((d.step b).2.feed bs).1, ((d.step b).2.feed bs).2) := by
  have h : feedFrom #[] d (b :: bs) = feedFrom (#[] ++ (d.step b).1) (d.step b).2 bs := rfl
  rw [feed, h, feedFrom_eq]
  simp

theorem feed_append (d : Decoder) (as bs : List UInt8) :
    d.feed (as ++ bs)
      = ((d.feed as).1 ++ ((d.feed as).2.feed bs).1, ((d.feed as).2.feed bs).2) := by
  induction as generalizing d with
  | nil => simp
  | cons a as ih => simp [feed_cons, ih]

end Decoder

end CharStream.Encoding
