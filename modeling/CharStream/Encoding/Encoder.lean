import CharStream.Encoding.Basic
import CharStream.Encoding.Big5
import CharStream.Encoding.EucJp
import CharStream.Encoding.EucKr
import CharStream.Encoding.Gb18030
import CharStream.Encoding.Iso2022Jp
import CharStream.Encoding.ShiftJis

/-!
# Writing a character in an encoding

Each character is written by itself, so no state runs from one to the next. UTF-16 and the
replacement encoding are not written; UTF-8 stands in for them.
-/

namespace CharStream.Encoding

/-- The bytes of a character, if the encoding has it. -/
def bytesOf? (encoding : Encoding) (c : Char) : Option (List UInt8) :=
  match encoding with
  | .utf8 | .utf16be | .utf16le | .replacement => some (String.utf8EncodeChar c)
  | .singleByte table => (table.encode c).map ([·])
  | .shiftJis => ShiftJis.encode c
  | .eucJp => EucJp.encode c
  | .iso2022Jp => Iso2022Jp.encode c
  | .eucKr => EucKr.encode c
  | .gbk => Gb18030.encodeGbk c
  | .gb18030 => Gb18030.encode c
  | .big5 => Big5.encode c

end CharStream.Encoding
