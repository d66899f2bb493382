/-!
# Lines of a text

A line ends at a line feed, at a carriage return, or at the two in that order, which count as one
terminator. Characters after the last terminator are one more line; the empty text has no line.

`Line.split` says so for a whole text at once. It is the yardstick for reading lines from a
stream.
-/

namespace CharStream.Line

/-- Splits a text of which the characters `current`, latest first, already belong to a line. -/
def splitFrom (current : List Char) : List Char → List String
  | [] => if current.isEmpty then [] else [String.ofList current.reverse]
  | '\r' :: '\n' :: cs => String.ofList current.reverse :: splitFrom [] cs
  | '\r' :: cs => String.ofList current.reverse :: splitFrom [] cs
  | '\n' :: cs => String.ofList current.reverse :: splitFrom [] cs
  | c :: cs => splitFrom (c :: current) cs

/-- The lines of a text, without their terminators. -/
def split (text : List Char) : List String := splitFrom [] text

end CharStream.Line
