import CharStream.Encoding.Decoder
import CharStream.Encoding.Encoder
import CharStream.Encoding.Label
import CharStream.Encoding.Library

/-!
# The encodings for running

The encodings of the Encoding Standard as a library. This is what programs are run with. Of UTF-8,
UTF-16 and the encodings of one byte a character it has all; of the East Asian character sets it has
a selection, and takes what is not in it for malformed or lacking.

Nothing is proved of this library but that it meets the hypotheses under which results hold of any.
-/

namespace CharStream

namespace Encoding

/-- Writes characters one by one while there is room for their bytes. -/
def write : List Char → Nat → Encoding → EncoderStop × List UInt8 × Encoding
  | [], _, encoding => (.inputEmpty, [], encoding)
  | c :: cs, room, encoding =>
    match encoding.bytesOf? c with
    | none => (.unmappable c, [], encoding)
    | some bytes =>
      if bytes.length ≤ room then
        let (stop, rest, encoding) := write cs (room - bytes.length) encoding
        (stop, bytes ++ rest, encoding)
      else (.outputFull, [], encoding)

theorem write_within (cs : List Char) (room : Nat) (encoding : Encoding) :
    (write cs room encoding).2.1.length ≤ room := by
  induction cs generalizing room with
  | nil => exact Nat.zero_le room
  | cons c cs ih =>
    rw [write]
    cases encoding.bytesOf? c with
    | none => exact Nat.zero_le room
    | some bytes =>
      dsimp only
      split
      · next hle =>
        calc (bytes ++ (write cs (room - bytes.length) encoding).2.1).length
            ≤ bytes.length + (room - bytes.length) := by
              rw [List.length_append]
              exact Nat.add_le_add_left (ih _) _
          _ = room := Nat.add_sub_cancel' hle
      · exact Nat.zero_le room

/-- Reads a piece of a stream. -/
def Decoder.read (bytes : List UInt8) (last : Bool) (d : Decoder) : List Char × Decoder :=
  let (cs, d) := d.feed bytes
  (if last then cs ++ d.finish else cs, d)

end Encoding

/-- The encodings for running. A decoder makes room as it goes, so what it asks for is no limit. No
state runs from one character to the next, so an encoder is nothing but its encoding. -/
abbrev EncodingLibrary.own : EncodingLibrary where
  Encoding := CharStream.Encoding
  decEq := inferInstance
  utf8 := .utf8
  ofLabel? := Encoding.ofLabel?
  name := Encoding.name
  output := Encoding.output
  Decoder := Encoding.Decoder
  newDecoder := .ofEncoding
  inForce := Encoding.Decoder.encoding
  roomFor n _ := some (3 * (n + 3))
  decode bytes last _ d := d.read bytes last
  decodeWithoutMark encoding bytes := ((Encoding.Decoder.withoutMark encoding).read bytes true).1
  Encoder := CharStream.Encoding
  newEncoder encoding := encoding
  encode := Encoding.write
  encode_within := Encoding.write_within

end CharStream
