/-!
# Malformed input

A decoder never refuses bytes. What stands for no character becomes one U+FFFD for each error. In
the encodings of pairs, a trail byte below 80 is not swallowed by the error: it is read again and
stands for its ASCII character.
-/

namespace CharStream.Encoding

/-- What malformed input decodes to. -/
def replacementChar : Char := '\uFFFD'

/-- A byte as the character with that code point. -/
def asciiChar (b : UInt8) : Char := Char.ofNat b.toNat

/-- What the trail byte `b` and the lead byte before it decode to: `found`, or an error after which
an ASCII trail is read again. -/
def pairResult (found : Option Char) (b : UInt8) : List Char :=
  match found with
  | some c => [c]
  | none => if b < 0x80 then [replacementChar, asciiChar b] else [replacementChar]

end CharStream.Encoding
