import CharStream.Encoding.Own
import CharStream.PercentLines

/-!
# The command line

Percent-encodes every line of standard input. The first argument names the encoding of the input,
the second the one that escapes are made of.
-/

namespace CharStream.PercentLines

/-- Reads a stream to its end or its first fault. -/
partial def readScript (stream : IO.FS.Stream) (items : Array ByteItem) : IO ByteScript := do
  let piece ← (stream.read 8192).toBaseIO
  match piece with
  | .error e => return (items.push (.fault { kind := .other, message := toString e })).toList
  | .ok bytes =>
    if bytes.isEmpty then return items.toList
    else readScript stream (items.push (.bytes bytes.toList))

/-- Runs the program on the standard streams. -/
def runOnStandardStreams (args : List String) : IO UInt32 := do
  let stdin ← readScript (← IO.getStdin) #[]
  match run .own Count.largest args stdin with
  | none => return 1
  | some outcome =>
    IO.print outcome.stdout
    IO.eprint outcome.stderr
    return outcome.code

end CharStream.PercentLines

def main (args : List String) : IO UInt32 := CharStream.PercentLines.runOnStandardStreams args
