import CharStream.Encoding.SingleByte

/-!
# The encodings

The encodings of the Encoding Standard, with their names. Text is never written in UTF-16 or in
the replacement encoding: `output` says what stands in for them.
-/

namespace CharStream

/-- An encoding of text as bytes. -/
inductive Encoding where
  | utf8
  | utf16be
  | utf16le
  /-- Stands for encodings that are not read for safety: any input is one error. -/
  | replacement
  | singleByte (table : Encoding.SingleByte)
  | shiftJis
  | eucJp
  | iso2022Jp
  | eucKr
  | gbk
  | gb18030
  | big5
deriving DecidableEq

namespace Encoding

/-- The name of an encoding. -/
def name : Encoding → String
  | .utf8 => "UTF-8"
  | .utf16be => "UTF-16BE"
  | .utf16le => "UTF-16LE"
  | .replacement => "replacement"
  | .singleByte table => table.name
  | .shiftJis => "Shift_JIS"
  | .eucJp => "EUC-JP"
  | .iso2022Jp => "ISO-2022-JP"
  | .eucKr => "EUC-KR"
  | .gbk => "GBK"
  | .gb18030 => "gb18030"
  | .big5 => "Big5"

/-- The encoding that text is written in when this one is asked for. -/
def output : Encoding → Encoding
  | .utf16be | .utf16le | .replacement => .utf8
  | encoding => encoding

end Encoding

end CharStream
