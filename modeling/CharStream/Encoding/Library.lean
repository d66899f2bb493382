/-!
# Libraries of encodings

Which encodings there are, what their labels are, and how text becomes bytes and bytes become text
are for a library of encodings to say. Everything that reads or writes bytes here is over such a
library, whichever it is. What a result relies on of a library is one of its hypotheses. The library
itself has one law only, that no encoder writes more bytes than it is given room for.

**Decoders** read the bytes of a stream piece by piece, and are told which piece is the last. They
are given room for the text of a piece, and say beforehand how much they want.

**Encoders** write characters, and are told how much room there is for the bytes. An encoder stops
at the end of its input, when its bytes do not fit, and at a character that its encoding lacks; and
it has a state, for instance the character set in force.
-/

namespace CharStream

/-- Why an encoder stopped. -/
inductive EncoderStop where
  /-- All characters are written. -/
  | inputEmpty
  /-- The bytes of the next character do not fit. -/
  | outputFull
  /-- The encoding lacks the character. -/
  | unmappable (c : Char)
deriving DecidableEq

/-- A library of encodings: its encodings, and its decoders and encoders for them. -/
structure EncodingLibrary where
  /-- The encodings. -/
  Encoding : Type
  decEq : DecidableEq Encoding
  utf8 : Encoding
  /-- The encoding that a label asks for. -/
  ofLabel? : String → Option Encoding
  name : Encoding → String
  /-- The encoding that text is written in when this one is asked for. -/
  output : Encoding → Encoding
  /-- Decoders of streams of bytes. -/
  Decoder : Type
  /-- A decoder at the start of a stream, ready for a byte order mark. -/
  newDecoder : Encoding → Decoder
  /-- The encoding in force; a mark changes it. -/
  inForce : Decoder → Encoding
  /-- The room for the text of so many bytes, in bytes of UTF-8, if that can be counted. -/
  roomFor : Nat → Decoder → Option Nat
  /-- Reads a piece of a stream: the text that it completes, as far as there is room for it, and the
  decoder after it. The last piece leaves nothing incomplete. -/
  decode : List UInt8 → (last : Bool) → (room : Option Nat) → Decoder → List Char × Decoder
  /-- Decodes bytes at once, taking a byte order mark for text. -/
  decodeWithoutMark : Encoding → List UInt8 → List Char
  /-- Encoders of streams of characters. -/
  Encoder : Type
  /-- An encoder that has written nothing yet. -/
  newEncoder : Encoding → Encoder
  /-- Writes the last characters of a stream, with room for so many bytes: why it stopped, the
  bytes, and the encoder after them. -/
  encode : List Char → (room : Nat) → Encoder → EncoderStop × List UInt8 × Encoder
  /-- The room is respected. -/
  encode_within : ∀ cs room k, (encode cs room k).2.1.length ≤ room

namespace EncodingLibrary

instance (L : EncodingLibrary) : DecidableEq L.Encoding := L.decEq

/-- Reads a piece that is not the last, with as much room as it takes. -/
def feed (L : EncodingLibrary) (d : L.Decoder) (bytes : List UInt8) : List Char × L.Decoder :=
  L.decode bytes false none d

/-- Decodes all the rest of a stream at once. -/
def decodeAll (L : EncodingLibrary) (d : L.Decoder) (bytes : List UInt8) : List Char :=
  (L.decode bytes true none d).1

end EncodingLibrary

end CharStream
