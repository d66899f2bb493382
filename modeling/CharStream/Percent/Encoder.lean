import CharStream.AsciiSet
import CharStream.Percent.Escape
import CharStream.Percent.Sink
import CharStream.Percent.Window
import CharStream.Utf16

/-!
# Percent-encoding text

**What is written.** Characters of the safe set are copied. Any other character is turned into
bytes of the target encoding, and each byte into an escape. The space gets no special treatment.

**Units.** The input is a sequence of UTF-16 units. A surrogate pair is one character; a surrogate
without its partner is encoded like a question mark, even if the question mark is safe.

**The target** is named by a label, which is looked up by the first call that encodes and then
remembered, or it is a character encoder of the caller's own. An unknown label fails every call
before anything is written.

**Failures.** What was written before a failure stays in the sink. Of a refused character nothing
is written.
-/

namespace CharStream.Percent

open CharStream.Utf16 (isHigh isLow combine ofCode)

/-! ## Errors -/

/-- Why text could not be encoded, or a character could not be made safe. -/
inductive EncodeError where
  /-- No encoding has this label. -/
  | unknownLabel (label : String)
  /-- Only ASCII characters can be safe. -/
  | notAscii (c : Char)
  /-- The character encoder refused. -/
  | char (cause : CharError)
  /-- The sink refused. -/
  | sink
deriving DecidableEq

instance : ToString EncodeError where
  toString
    | .unknownLabel label => "unsupported target encoding " ++ Text.quoted label
    | .notAscii c => "safe characters must be ASCII, got " ++ Text.quotedChar c
    | .char cause => "transcode error: " ++ toString cause
    | .sink => "sink error"

/-- The encoding of a label. -/
def resolve (L : EncodingLibrary) (label : String) : Except EncodeError L.Encoding :=
  match L.ofLabel? label with
  | some encoding => .ok encoding
  | none => .error (.unknownLabel label)

/-! ## Targets -/

/-- What characters are turned into bytes with. -/
inductive Target (L : EncodingLibrary) where
  /-- The encoding of a label, and what the label was found to mean. -/
  | named (label : String) (resolved : Option L.Encoding)
  /-- A character encoder of the caller's own. -/
  | custom (encoder : CharEncoder)

namespace Target

variable {L : EncodingLibrary}

/-- The character encoder of a target, and the target with its label looked up. -/
def encoder : Target L → Except EncodeError CharEncoder × Target L
  | .named label (some encoding) => (.ok (.ofEncoding L encoding), .named label (some encoding))
  | .named label none =>
    match resolve L label with
    | .ok encoding => (.ok (.ofEncoding L encoding), .named label (some encoding))
    | .error e => (.error e, .named label none)
  | .custom encoder => (.ok encoder, .custom encoder)

/-- The label of a target that has one. -/
def label? : Target L → Option String
  | .named label _ => some label
  | .custom _ => none

/-- A target in words. -/
def describe : Target L → String
  | .named label resolved =>
    "Named \x7b label: " ++ Text.quoted label ++ ", resolved: "
      ++ (match resolved with
          | some encoding => "Some(" ++ Text.quoted (L.name (L.output encoding)) ++ ")"
          | none => "None") ++ " \x7d"
  | .custom _ => "Custom(..)"

end Target

/-! ## Writing units -/

/-- Writes a safe character. -/
def copyChar (c : Char) (sink : Sink) : Except EncodeError Unit × Sink :=
  match sink.put c with
  | (true, sink) => (.ok (), sink)
  | (false, sink) => (.error .sink, sink)

/-- Writes the escapes of a character's bytes. They are collected in scratch bytes, which are
cleared before and, whatever the outcome, after. -/
def escapeChar (encoder : CharEncoder) (case : HexCase) (c : Char) (sink : Sink) :
    Except EncodeError Unit × List UInt8 × Sink :=
  match encoder.encode c [] with
  | (.error e, _) => (.error (.char e), [], sink)
  | (.ok (), scratch) =>
    match sink.putAll (escape case scratch) with
    | (true, sink) => (.ok (), [], sink)
    | (false, sink) => (.error .sink, [], sink)

/-- Writes units until one fails. Scratch bytes stay as they are until a character is escaped. -/
def writeUnits (safe : AsciiSet) (encoder : CharEncoder) (case : HexCase) :
    List UInt16 → List UInt8 → Sink → Except EncodeError Unit × List UInt8 × Sink
  | [], scratch, sink => (.ok (), scratch, sink)
  | [u], scratch, sink =>
    if safe.containsUnit u then
      let (r, sink) := copyChar (Char.ofNat u.toNat) sink
      (r, scratch, sink)
    else escapeChar encoder case (ofCode u.toNat) sink
  | u :: v :: us, scratch, sink =>
    if safe.containsUnit u then
      match copyChar (Char.ofNat u.toNat) sink with
      | (.error e, sink) => (.error e, scratch, sink)
      | (.ok (), sink) => writeUnits safe encoder case (v :: us) scratch sink
    else if isHigh u && isLow v then
      match escapeChar encoder case (combine u v) sink with
      | (.error e, scratch, sink) => (.error e, scratch, sink)
      | (.ok (), scratch, sink) => writeUnits safe encoder case us scratch sink
    else
      match escapeChar encoder case (ofCode u.toNat) sink with
      | (.error e, scratch, sink) => (.error e, scratch, sink)
      | (.ok (), scratch, sink) => writeUnits safe encoder case (v :: us) scratch sink

/-! ## The encoder -/

/-- The options of an encoder: the label of its target. -/
structure Options where
  label : String := "UTF8"
deriving DecidableEq

/-- A percent encoder: its safe characters, its target, and the bytes of the character at hand. -/
structure Encoder (L : EncodingLibrary) where
  safe : AsciiSet := .unreserved
  target : Target L := .named ({} : Options).label none
  scratch : List UInt8 := []

namespace Encoder

variable {L : EncodingLibrary}

/-- An encoder with options. Its label is looked up when it is needed. -/
def ofOptions (options : Options) : Encoder L := { target := .named options.label none }

/-- An encoder with a character encoder of the caller's own. -/
def ofCharEncoder (encoder : CharEncoder) : Encoder L := { target := .custom encoder }

/-- Makes a character safe, if it is ASCII. -/
def addSafe (c : Char) (e : Encoder L) : Except EncodeError Unit × Encoder L :=
  match e.safe.insert? c with
  | some safe => (.ok (), { e with safe })
  | none => (.error (.notAscii c), e)

/-- Chooses the encoding of a label as the target, in place of any other. -/
def setTarget (label : String) (e : Encoder L) : Encoder L := { e with target := .named label none }

/-- Writes the encoded form of units to a sink. -/
def encodeUnits (case : HexCase) (units : List UInt16) (sink : Sink) (e : Encoder L) :
    Except EncodeError Unit × Sink × Encoder L :=
  match e.target.encoder with
  | (.error err, target) => (.error err, sink, { e with target })
  | (.ok encoder, target) =>
    let (r, scratch, sink) := writeUnits e.safe encoder case units e.scratch sink
    (r, sink, { e with target, scratch })

/-- Writes the encoded form of a text to a sink. -/
def encode (case : HexCase) (text : String) (sink : Sink) (e : Encoder L) :
    Except EncodeError Unit × Sink × Encoder L :=
  e.encodeUnits case (CharStream.Utf16.units text.toList) sink

/-- The encoded form of a text, or the empty string if anything fails. -/
def encodeToString (case : HexCase) (text : String) (e : Encoder L) : String × Encoder L :=
  match e.encode case text {} with
  | (.ok (), sink, e) => (sink.text, e)
  | (.error _, _, e) => ("", e)

/-- An encoder in words. -/
def describe (e : Encoder L) : String :=
  let scratch := String.intercalate ", " (e.scratch.map fun b => toString b.toNat)
  "PercentEncoder \x7b safe: " ++ e.safe.describe ++ ", backend: " ++ e.target.describe
    ++ ", scratch: [" ++ scratch ++ "] \x7d"

end Encoder

end CharStream.Percent
