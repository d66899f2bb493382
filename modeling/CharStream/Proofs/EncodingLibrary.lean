import CharStream.Encoding.Utf8
import CharStream.Percent.Window

/-!
# What is relied on of a library of encodings

A library decodes and encodes as it pleases. Results that depend on how it does have these
hypotheses, and each of them is what such a library documents.

* `Streams` — the text of a stream does not depend on how its bytes are cut into pieces.
* `Suffices` — a decoder that is given the room it asks for needs no more.
* `Keeps` — a new encoder has room enough for one character, and has written nothing when it turns
  out that its encoding lacks the character.
* `ReadsUtf8` — well-formed UTF-8 is decoded to its characters.
* `SingleByte` — an encoding whose bytes are characters each, ASCII among them, and whose decoder
  reads what the encoder writes.
-/

namespace CharStream.EncodingLibrary

variable {L : EncodingLibrary}

/-- Decoding one piece and then the next is decoding both at once. -/
structure Streams (L : EncodingLibrary) : Prop where
  /-- A piece without bytes changes nothing. -/
  nil (d : L.Decoder) : L.decode [] false none d = ([], d)
  append (d : L.Decoder) (as bs : List UInt8) (last : Bool) :
    L.decode (as ++ bs) last none d
      = ((L.decode as false none d).1 ++ (L.decode bs last none (L.decode as false none d).2).1,
        (L.decode bs last none (L.decode as false none d).2).2)

/-- For up to `n` bytes a decoder can say how much room it wants, and it makes no difference if it
is given more. -/
def Suffices (L : EncodingLibrary) (n : Nat) : Prop :=
  ∀ bytes : List UInt8, bytes.length ≤ n → ∀ (last : Bool) (d : L.Decoder),
    ∃ room, L.roomFor bytes.length d = some room ∧
      L.decode bytes last (some room) d = L.decode bytes last none d

namespace Streams

variable (h : L.Streams)
include h

theorem feed_nil (d : L.Decoder) : L.feed d [] = ([], d) := h.nil d

theorem feed_append (d : L.Decoder) (as bs : List UInt8) :
    L.feed d (as ++ bs)
      = ((L.feed d as).1 ++ (L.feed (L.feed d as).2 bs).1, (L.feed (L.feed d as).2 bs).2) :=
  h.append d as bs false

theorem decodeAll_append (d : L.Decoder) (as bs : List UInt8) :
    L.decodeAll d (as ++ bs) = (L.feed d as).1 ++ L.decodeAll (L.feed d as).2 bs := by
  rw [decodeAll, h.append]
  rfl

end Streams

/-! ## Encoders -/

/-- A new encoder gets one character, and the window for its bytes. -/
def first (L : EncodingLibrary) (encoding : L.Encoding) (c : Char) :
    EncoderStop × List UInt8 × L.Encoder :=
  L.encode [c] window (L.newEncoder encoding)

/-- What is relied on of the encoders for an encoding. -/
structure Keeps (L : EncodingLibrary) (encoding : L.Encoding) : Prop where
  /-- The window is large enough for a character. -/
  fits : ∀ c, (L.first encoding c).1 ≠ .outputFull
  /-- A character has bytes. -/
  writes : ∀ c, (L.first encoding c).1 = .inputEmpty → (L.first encoding c).2.1 ≠ []
  /-- If the encoding lacks a character, then nothing is written, -/
  lacks : ∀ c d, (L.first encoding c).1 = .unmappable d → (L.first encoding c).2.1 = []
  /-- and so there is nothing that the end of the stream could add. -/
  ends : ∀ c d, (L.first encoding c).1 = .unmappable d →
    (L.encode [] window (L.first encoding c).2.2).1 = .inputEmpty ∧
      (L.encode [] window (L.first encoding c).2.2).2.1 = []

/-! ## Decoding at once -/

/-- UTF-8 is written as such, and its bytes are decoded to the characters they are of. -/
structure ReadsUtf8 (L : EncodingLibrary) : Prop where
  output : L.output L.utf8 = L.utf8
  decode (cs : List Char) : L.decodeWithoutMark L.utf8 (Encoding.Utf8.encode cs) = cs

/-- The encoding is written as such, and each byte is a character by itself. -/
structure SingleByte (L : EncodingLibrary) (encoding : L.Encoding) : Prop where
  ne_utf8 : encoding ≠ L.utf8
  output : L.output encoding = encoding
  decode : ∃ table : UInt8 → Char, ∀ bytes, L.decodeWithoutMark encoding bytes = bytes.map table
  /-- ASCII characters are their own bytes. -/
  ascii (c : Char) : c.toNat < 0x80 →
    (L.first encoding c).1 = .inputEmpty ∧ (L.first encoding c).2.1 = [c.toNat.toUInt8]
  /-- A character that the encoding has is read back. -/
  inverts (c : Char) : (L.first encoding c).1 = .inputEmpty →
    L.decodeWithoutMark encoding (L.first encoding c).2.1 = [c]

end CharStream.EncodingLibrary
