import CharStream.Line.Options
import CharStream.Percent.Encoder
import CharStream.Settings.Json

/-!
# Options as JSON

The options of a line scanner and of a percent encoder are records with one field each. A field
that is not there has its usual value, and a key that is not known is passed over.

A line length is a whole number from one to the largest count, written without fraction, exponent
or sign. A label is any string.

What is proved of options is proved of the records, however they came about; how they are read and
written is for running alone.
-/

namespace CharStream.Settings

open Json (Fault)

/-- The key of the line length. -/
def lineKey : String := "max_line_length"

/-- The key of the label. -/
def labelKey : String := "target_encoding"

/-- Reads a line length. -/
def length (cs : List Char) : Except Fault (LineOptions × List Char) :=
  match Json.skipBlank cs with
  | [] => .error .ended
  | c :: cs =>
    if c.isDigit then do
      let (n, rest) ← Json.number (c :: cs)
      if n.isHuge then .error .malformed
      else match n.count?.bind LineOptions.ofLength? with
        | some options => return (options, rest)
        | none => .error .shape
    else .error (Json.wrongType (c :: cs))

/-- Reads a label. -/
def label (cs : List Char) : Except Fault (String × List Char) :=
  match Json.skipBlank cs with
  | [] => .error .ended
  | '"' :: cs => Json.string cs
  | cs => .error (Json.wrongType cs)

/-- Reads the options of a line scanner. -/
def readLine (text : String) : Except Fault LineOptions := do
  return (← Json.record lineKey length text.toList).getD .default

/-- Writes the options of a line scanner. -/
def writeLine (options : LineOptions) : String :=
  Json.object lineKey (toString options.maxLineLength)

/-- Reads the options of a percent encoder. -/
def readPercent (text : String) : Except Fault Percent.Options := do
  return match ← Json.record labelKey label text.toList with
    | some label => { label }
    | none => {}

/-- Writes the options of a percent encoder. -/
def writePercent (options : Percent.Options) : String :=
  Json.object labelKey (Json.quoted options.label)

end CharStream.Settings
