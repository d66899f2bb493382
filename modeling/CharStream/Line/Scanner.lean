import CharStream.Line.Options
import CharStream.Line.Scan

/-!
# Reading lines from a rewindable source

**One line.** Mark the source, scan one buffer, rewind, and skip exactly the line and its
terminator. The source then stands right behind the terminator, whatever the scan has looked at.

**Long lines.** A buffer that fills up without a terminator is spilled into a string, and the scan
goes on from a fresh mark. The source never has to look further ahead than one buffer and one
character.

**Fuel.** A source may deliver characters for ever, so `nextLine` takes the number of buffers that
it may scan; `none` says that this was not enough, and is neither a line nor the end.

A scanner is itself a rewindable reader: it passes everything on to its source.
-/

namespace CharStream

variable {σ ε : Type}

/-! ## Errors -/

/-- Why no line could be read. -/
inductive LineError (ε : Type) where
  /-- The source failed. -/
  | source (cause : ε)
  /-- The source cannot look far enough ahead; nothing was read. -/
  | lookahead (requested supported : Nat)
  /-- After the rewind the source skipped fewer characters than the line takes. -/
  | shortSkip (expected skipped : Nat)
deriving DecidableEq

instance [ToString ε] : ToString (LineError ε) where
  toString
    | .source cause => "source error: " ++ toString cause
    | .lookahead requested supported =>
      "read-ahead of " ++ toString requested ++ " characters exceeds the source limit of "
        ++ toString supported
    | .shortSkip expected skipped =>
      "source skipped " ++ toString skipped ++ " of " ++ toString expected
        ++ " characters after reset"

/-! ## Finding the end of a line -/

namespace Line

/-- A line that was found: the text of the full buffers before, the length of its part in the last
buffer, and how many characters from the last mark on it takes, its terminator included. -/
structure Found where
  spilled : String
  length : Nat
  taken : Nat
deriving DecidableEq

/-- Scans buffer after buffer, at most `fuel` of them, and marks the source before each. The answer
is `none` at the end of the stream if not a single character came before it. -/
def find [Rewindable σ ε] (options : LineOptions) :
    Nat → String → Array Char → σ → Option (Except ε (Option Found) × Array Char × σ)
  | 0, _, _, _ => none
  | fuel + 1, spilled, buf, s =>
    match Rewindable.mark options.readAhead s with
    | (.error e, s) => some (.error e, buf, s)
    | (.ok (), s) =>
      match scan options.maxLineLength 0 buf s with
      | (.error e, buf, s) => some (.error e, buf, s)
      | (.ok (.terminated length taken), buf, s) =>
        some (.ok (some { spilled, length, taken }), buf, s)
      | (.ok (.exhausted length), buf, s) =>
        if length = 0 ∧ spilled.isEmpty then some (.ok none, buf, s)
        else some (.ok (some { spilled, length, taken := length }), buf, s)
      | (.ok .full, buf, s) => find options fuel (spilled ++ text buf options.maxLineLength) buf s

/-- Rewinds, skips the line, and takes its text from the buffer. -/
def Found.take [Rewindable σ ε] (found : Found) (buf : Array Char) (s : σ) :
    Except (LineError ε) String × σ :=
  match Rewindable.rewind s with
  | (.error e, s) => (.error (.source e), s)
  | (.ok (), s) =>
    match Reader.skip found.taken s with
    | (.error e, s) => (.error (.source e), s)
    | (.ok skipped, s) =>
      if skipped = found.taken then (.ok (found.spilled ++ text buf found.length), s)
      else (.error (.shortSkip found.taken skipped), s)

end Line

/-! ## The scanner -/

/-- A source, the options, and the array that all scans share. -/
structure LineScanner (σ : Type) where
  source : σ
  options : LineOptions := {}
  buffer : Array Char := #[]

namespace LineScanner

/-- Reads the next line without its terminator; `.ok none` at the end of the stream. Characters
after the last terminator are a line too. The outer `none` means that the line has more than `fuel`
buffers. After an error the scanner can be used again. -/
def nextLine [Rewindable σ ε] (fuel : Nat) (r : LineScanner σ) :
    Option (Except (LineError ε) (Option String) × LineScanner σ) :=
  let supported := Rewindable.lookahead r.source
  if supported < r.options.readAhead then
    some (.error (.lookahead r.options.readAhead supported), r)
  else
    match Line.find r.options fuel "" r.buffer r.source with
    | none => none
    | some (.error e, buffer, source) => some (.error (.source e), { r with buffer, source })
    | some (.ok none, buffer, source) => some (.ok none, { r with buffer, source })
    | some (.ok (some found), buffer, source) =>
      let (line, source) := found.take buffer source
      some (line.map some, { r with buffer, source })

/-- The next items of the scanner, at most `limit` lines and errors; there are fewer only if the
stream ends. An error does not end them. -/
def items [Rewindable σ ε] (fuel : Nat) :
    Nat → LineScanner σ → Option (List (Except (LineError ε) String) × LineScanner σ)
  | 0, r => some ([], r)
  | limit + 1, r =>
    match r.nextLine fuel with
    | none => none
    | some (.ok none, r) => some ([], r)
    | some (.error e, r) => (items fuel limit r).map fun (rest, r) => (.error e :: rest, r)
    | some (.ok (some line), r) => (items fuel limit r).map fun (rest, r) => (.ok line :: rest, r)

/-- Runs an operation of the source. -/
def onSource {α : Type} (f : σ → α × σ) (r : LineScanner σ) : α × LineScanner σ :=
  let (a, source) := f r.source
  (a, { r with source })

instance [Rewindable σ ε] : Rewindable (LineScanner σ) ε where
  read n := onSource (Reader.read n)
  length_read_le := by
    intro n r cs r' h
    simp only [onSource, Prod.mk.injEq] at h
    exact Reader.length_read_le (Prod.ext h.1 rfl)
  readChar := onSource Reader.readChar
  skip n := onSource (Reader.skip n)
  lookahead r := Rewindable.lookahead r.source
  mark n := onSource (Rewindable.mark n)
  rewind := onSource Rewindable.rewind

end LineScanner

end CharStream
