import CharStream.Text.Hex
import CharStream.Text.Unprintable

/-!
# Quoted text

Messages show characters and strings between quotes, so that blanks and invisible characters can
be told apart. The backslash and the quote in use are escaped, a few controls have names, and any
other unprintable character is written by its code point.
-/

namespace CharStream.Text

/-- A character inside quotes of the kind `quote`. -/
def quoteChar (quote c : Char) : List Char :=
  if c = '\x00' then ['\\', '0']
  else if c = '\t' then ['\\', 't']
  else if c = '\n' then ['\\', 'n']
  else if c = '\r' then ['\\', 'r']
  else if c = '\\' ∨ c = quote then ['\\', c]
  else if isUnprintable c then ['\\', 'u', '\x7b'] ++ hexOf c.toNat ++ ['\x7d']
  else [c]

/-- A character between apostrophes. -/
def quotedChar (c : Char) : String := String.ofList ('\'' :: quoteChar '\'' c ++ ['\''])

/-- A string between quotation marks. -/
def quoted (s : String) : String := String.ofList ('"' :: s.toList.flatMap (quoteChar '"') ++ ['"'])

end CharStream.Text
