import CharStream.Text.Quoted

/-!
# From a character to bytes

A percent encoder is told how to turn a character into bytes by a `CharEncoder`. It appends to the
bytes that it is given, and may refuse a character; what it has appended by then is of no use to
anyone. It has no state: what it makes of a character does not depend on those before.
-/

namespace CharStream

/-- Why a character has no bytes. -/
inductive CharError where
  /-- The encoding lacks the character. -/
  | unmappable (c : Char)
  /-- The bytes of the character are too many. -/
  | overflow (c : Char)
deriving DecidableEq

instance : ToString CharError where
  toString
    | .unmappable c =>
      "character " ++ Text.quotedChar c ++ " cannot be represented in the target encoding"
    | .overflow c =>
      "transcoded form of " ++ Text.quotedChar c ++ " does not fit the scratch buffer"

/-- A way to write characters as bytes: from a character and the bytes before it to the outcome and
the bytes after. -/
structure CharEncoder where
  encode : Char → List UInt8 → Except CharError Unit × List UInt8

namespace CharEncoder

/-- Writes UTF-8. -/
def utf8 : CharEncoder where
  encode c bytes := (.ok (), bytes ++ String.utf8EncodeChar c)

end CharEncoder

end CharStream
