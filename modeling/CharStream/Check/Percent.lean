import CharStream.Encoding.Utf8
import CharStream.Percent.Encoder

/-!
# Checking the percent encoder by reading back

Encodes units and looks at the result from all sides: it holds only safe characters and escapes;
the bytes of the escapes decode; what they decode to encodes to the same bytes; and for UTF-8 it is
the text of the units, with a question mark for each surrogate that has no partner.

The escapes of ISO-2022-JP are not decoded. Each character brings its own escape sequences, and its
decoder takes two of them in a row for an error.
-/

namespace CharStream.Check

open Percent (EncodeError Encoder)

/-- The labels of the targets that are checked. -/
def targets : List String :=
  ["UTF8", "windows-1252", "shift_jis", "euc-kr", "iso-2022-jp", "gb18030"]

/-- The label with a number, counted in a circle. -/
def targetLabel (n : Nat) : String := targets.getD (n % targets.length) ""

/-- What the encoder is checked on: units, bytes to make safe as characters, a target, and the case
of the digits. -/
structure PercentCase where
  units : List UInt16
  extraSafe : List UInt8
  label : String
  case : HexCase

namespace PercentCase

/-- The characters to make safe. The percent sign stays out, so that escapes can be told. -/
def safeChars (p : PercentCase) : List Char :=
  (p.extraSafe.filter (· ≠ 0x25)).map fun b => Char.ofNat b.toNat

variable (L : EncodingLibrary) (p : PercentCase)

/-- The encoder of the case. Characters that cannot be made safe are passed over. -/
def encoder : Encoder L :=
  p.safeChars.foldl (fun e c => (e.addSafe c).2) (.ofOptions { label := p.label })

/-- The encoded units, and the encoder after them. -/
def encoded : Except EncodeError String × Encoder L :=
  match (p.encoder L).encodeUnits p.case p.units {} with
  | (.ok (), sink, e) => (.ok sink.text, e)
  | (.error err, _, e) => (.error err, e)

/-- The bytes of an encoded text, its escapes read. -/
def bytesOf? (encoded : String) : Option (List UInt8) :=
  Percent.unescape (Encoding.Utf8.encode encoded.toList)

/-- Whether a text holds only safe characters and escapes with digits of the case. -/
def wellFormed (safe : AsciiSet) (case : HexCase) : List Char → Bool
  | [] => true
  | '%' :: high :: low :: cs => case.isDigit high && case.isDigit low && wellFormed safe case cs
  | c :: cs => c ≠ '%' && safe.contains c && wellFormed safe case cs

/-- Whether a character could be made safe just if it is ASCII. -/
def safeAsExpected : Bool :=
  p.safeChars.all fun c =>
    match ({} : Encoder L).addSafe c with
    | (.ok (), _) => c.toNat < 0x80
    | (.error _, _) => 0x80 ≤ c.toNat

/-- Whether the bytes decode to a text that the encoder `e` encodes to the same bytes. -/
def readsBack (encoding : L.Encoding) (bytes : List UInt8) (e : Encoder L) : Bool :=
  let text := L.decodeWithoutMark encoding bytes
  (encoding ≠ L.utf8 || text == (Utf16.items p.units).map (·.charOr '?'))
    && match e.encode p.case (String.ofList text) {} with
      | (.ok (), sink, _) => bytesOf? sink.text == some bytes
      | (.error _, _, _) => false

/-- The target whose escapes are not decoded. -/
def notDecoded : String := "iso-2022-jp"

/-- The whole check. -/
def holds : Bool :=
  p.safeAsExpected L && match p.encoded L with
    | (.ok out, e) =>
      wellFormed (p.encoder L).safe p.case out.toList
        && (p.label = notDecoded || match L.ofLabel? p.label, bytesOf? out with
            | some encoding, some bytes => p.readsBack L encoding bytes e
            | _, _ => false)
    | (.error _, _) => false

end PercentCase

end CharStream.Check
