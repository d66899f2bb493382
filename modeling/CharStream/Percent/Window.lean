import CharStream.Encoding.Library
import CharStream.Percent.CharEncoder

/-!
# Single characters from a library of encodings

An encoder of a library writes a stream of characters and has a state. A `CharEncoder` has no use
for streams: `CharEncoder.ofEncoding` gives each character an encoder of its own, and a window for
its bytes. If the encoding lacks the character, then the encoder is made to end its stream, and a
question mark is put behind what it has written. UTF-8 needs no encoder.

There are three ways to fail on the way: the bytes of the character do not fit, the stream does not
end, or the question mark does not fit. All of them are reported as an overflow.
-/

namespace CharStream

namespace EncodingLibrary

/-- The size of the window: the most bytes that a character has in any encoding. -/
def window : Nat := 16

/-- What is written for a character that the encoding lacks: a question mark. -/
def questionMark : UInt8 := 0x3F

variable (L : EncodingLibrary)

/-- Writes a character with an encoder that is not used again. -/
def encodeInto (c : Char) (k : L.Encoder) : Except CharError (List UInt8) :=
  match L.encode [c] window k with
  | (.inputEmpty, written, _) => .ok written
  | (.outputFull, _, _) => .error (.overflow c)
  | (.unmappable _, written, k) =>
    match L.encode [] (window - written.length) k with
    | (.inputEmpty, flushed, _) =>
      if (written ++ flushed).length < window then .ok (written ++ flushed ++ [questionMark])
      else .error (.overflow c)
    | _ => .error (.overflow c)

end EncodingLibrary

/-- Writes in an encoding, or in the one that stands in for it, each character with a new encoder of
the library. -/
def CharEncoder.ofEncoding (L : EncodingLibrary) (encoding : L.Encoding) : CharEncoder where
  encode c bytes :=
    if L.output encoding = L.utf8 then (.ok (), bytes ++ String.utf8EncodeChar c)
    else
      match L.encodeInto c (L.newEncoder (L.output encoding)) with
      | .ok written => (.ok (), bytes ++ written)
      | .error e => (.error e, bytes)

end CharStream
