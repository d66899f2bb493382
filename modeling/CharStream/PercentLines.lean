import CharStream.DecodedReader
import CharStream.Line.Scanner
import CharStream.Percent.Encoder
import CharStream.ReplayBuffer

/-!
# Percent-encoding the lines of a byte stream

The whole chain: bytes are decoded, a replay buffer makes the characters rewindable, a scanner cuts
them into lines, and each line is percent-encoded and followed by a line feed. The slash is safe
here, and hexadecimal digits are upper case.

The first argument is the label of the input encoding and the second that of the target; both are
UTF-8 unless given. A failure ends the run, and what was written before it stays.

A text may be as long as it likes, so the lines and buffers of a run are bounded by some number
which is handed in.
-/

namespace CharStream.PercentLines

open Percent (EncodeError)

/-! ## Failures -/

/-- Why a run fails. -/
inductive Failure where
  /-- No encoding has the label given for the input. -/
  | unknownInput (label : String)
  /-- The input failed. -/
  | read (cause : LineError (ReplayError ByteFault))
  /-- A line could not be encoded. -/
  | encode (cause : EncodeError)
deriving DecidableEq

/-- The name of a kind of fault. -/
def kindName : FaultKind → String
  | .interrupted => "Interrupted"
  | .wouldBlock => "WouldBlock"
  | .unexpectedEof => "UnexpectedEof"
  | .outOfMemory => "OutOfMemory"
  | .other => "Other"

/-- A fault of the byte stream by its parts. -/
def describeFault (f : ByteFault) : String :=
  "Custom \x7b kind: " ++ kindName f.kind ++ ", error: " ++ Text.quoted f.message ++ " \x7d"

/-- Two numbers of characters by their names. -/
def describeCounts (a : String) (m : Nat) (b : String) (n : Nat) : String :=
  " \x7b " ++ a ++ ": " ++ toString m ++ ", " ++ b ++ ": " ++ toString n ++ " \x7d"

/-- A failed call of the replay buffer by its parts. -/
def describeReplay : ReplayError ByteFault → String
  | .read f => "Read(" ++ describeFault f ++ ")"
  | .lookahead requested supported =>
    "MarkLimitExceeded" ++ describeCounts "requested" requested "supported" supported
  | .noMark => "InvalidMark"

/-- A failed line by its parts. -/
def describeLine : LineError (ReplayError ByteFault) → String
  | .source e => "Source(" ++ describeReplay e ++ ")"
  | .lookahead requested supported =>
    "MarkLimitExceeded" ++ describeCounts "requested" requested "supported" supported
  | .shortSkip expected skipped =>
    "ShortSkip" ++ describeCounts "expected" expected "skipped" skipped

/-- A failed encoding by its parts. -/
def describeEncode : EncodeError → String
  | .unknownLabel label => "UnsupportedEncoding(" ++ Text.quoted label ++ ")"
  | .notAscii c => "NonAsciiSafeCharacter(" ++ Text.quotedChar c ++ ")"
  | .char (.unmappable c) => "Transcode(Unmappable(" ++ Text.quotedChar c ++ "))"
  | .char (.overflow c) => "Transcode(Overflow(" ++ Text.quotedChar c ++ "))"
  | .sink => "Sink(Error)"

/-- A failure by its parts. One that is told by a sentence is shown as a quoted string. -/
def Failure.describe : Failure → String
  | .unknownInput label => Text.quoted ("unknown input encoding " ++ Text.quoted label)
  | .read e => describeLine e
  | .encode e => describeEncode e

/-! ## A run -/

variable {L : EncodingLibrary}

/-- The characters of the input, ready for line reading. -/
abbrev Input (L : EncodingLibrary) := LineScanner (ReplayBuffer (DecodedReader L))

/-- The input in an encoding. -/
def input (stdin : ByteScript) (encoding : L.Encoding) : Input L :=
  { source := { inner := .ofEncoding stdin encoding }, options := .default }

/-- The encoder for the lines: the usual safe characters and the slash. -/
def encoder (label : String) : Percent.Encoder L :=
  (({} : Percent.Encoder L).setTarget label |>.addSafe '/').2

/-- Encodes the remaining lines after the output `out`. At most `fuel` lines are read, each of at
most as many buffers; `none` says that this was not enough. -/
def encodeLines : Nat → Input L → Percent.Encoder L → String → Option (Option Failure × String)
  | 0, _, _, _ => none
  | fuel + 1, input, encoder, out =>
    match input.nextLine (fuel + 1) with
    | none => none
    | some (.error e, _) => some (some (.read e), out)
    | some (.ok none, _) => some (none, out)
    | some (.ok (some line), input) =>
      match encoder.encode .upper line {} with
      | (.error e, _, _) => some (some (.encode e), out)
      | (.ok (), sink, encoder) => encodeLines fuel input encoder (out ++ sink.text ++ "\n")

/-- What a run leaves behind. -/
structure Outcome where
  code : UInt32
  stdout : String
  stderr : String
deriving DecidableEq

/-- The outcome of output and perhaps a failure. -/
def Outcome.of : Option Failure × String → Outcome
  | (none, stdout) => { code := 0, stdout, stderr := "" }
  | (some failure, stdout) =>
    { code := 1, stdout, stderr := "Error: " ++ failure.describe ++ "\n" }

variable (L)

/-- The encoding of the input. -/
def inputEncoding : List String → Except Failure L.Encoding
  | [] => .ok L.utf8
  | label :: _ =>
    match L.ofLabel? label with
    | some encoding => .ok encoding
    | none => .error (.unknownInput label)

/-- The label of the target. -/
def targetLabel : List String → String
  | _ :: label :: _ => label
  | _ => "utf-8"

/-- Runs the program on its arguments and its standard input. At most `fuel` lines are read, each of
at most as many buffers; `none` says that this was not enough. -/
def run (fuel : Nat) (args : List String) (stdin : ByteScript) : Option Outcome :=
  match inputEncoding L args with
  | .error failure => some (Outcome.of (some failure, ""))
  | .ok encoding =>
    (encodeLines fuel (input stdin encoding) (encoder (targetLabel args)) "").map Outcome.of

end CharStream.PercentLines
