import CharStream.Text.Hex

/-!
# Escapes

A byte is escaped as a percent sign and its two hexadecimal digits.

`unescape` reads escapes back. It takes digits of either case, and also one digit after a plus
sign; a percent sign that is not followed by two such bytes has no reading.

Main results: `unescape_escape_append`, that escaped bytes are read back.
-/

namespace CharStream.Percent

/-- The escape of one byte. -/
def escapeByte (case : HexCase) (b : UInt8) : List Char :=
  ['%', case.digit (b.toNat / 16), case.digit (b.toNat % 16)]

/-- The escapes of bytes, one after the other. -/
def escape (case : HexCase) (bytes : List UInt8) : List Char := bytes.flatMap (escapeByte case)

/-- The byte of the two bytes after a percent sign. -/
def escapedByte? (high low : UInt8) : Option UInt8 := do
  let low ← Text.hexValue? (Char.ofNat low.toNat)
  if high = 0x2B then some low.toUInt8
  else
    let high ← Text.hexValue? (Char.ofNat high.toNat)
    some (high * 16 + low).toUInt8

/-- The bytes of a text with its escapes read; `none` if a percent sign begins no escape. -/
def unescape : List UInt8 → Option (List UInt8)
  | [] => some []
  | 0x25 :: high :: low :: rest => do
    let b ← escapedByte? high low
    return b :: (← unescape rest)
  | b :: rest => if b = 0x25 then none else (unescape rest).map (b :: ·)

/-! ## Reading back -/

/-- The ASCII characters of a text as bytes. -/
def asciiBytes (cs : List Char) : List UInt8 := cs.map (·.toNat.toUInt8)

theorem hexValue?_digit (case : HexCase) :
    ∀ n < 16, Text.hexValue? (Char.ofNat (case.digit n).toNat.toUInt8.toNat) = some n := by
  cases case <;> decide

theorem digit_ne_plus (case : HexCase) : ∀ n < 16, (case.digit n).toNat.toUInt8 ≠ 0x2B := by
  cases case <;> decide

theorem escapedByte?_digits (case : HexCase) (b : UInt8) :
    escapedByte? (case.digit (b.toNat / 16)).toNat.toUInt8
      (case.digit (b.toNat % 16)).toNat.toUInt8 = some b := by
  have hb := b.toNat_lt
  have hh : b.toNat / 16 < 16 := by omega
  have hl : b.toNat % 16 < 16 := by omega
  simp only [escapedByte?, hexValue?_digit case _ hl, hexValue?_digit case _ hh,
    digit_ne_plus case _ hh, if_false, Option.bind_eq_bind, Option.bind_some]
  rw [show b.toNat / 16 * 16 + b.toNat % 16 = b.toNat by omega]
  simp

theorem unescape_cons_of_ne {b : UInt8} (h : b ≠ 0x25) (bs : List UInt8) :
    unescape (b :: bs) = (unescape bs).map (b :: ·) := by
  rw [unescape, if_neg h]
  rintro high low rest rfl
  exact absurd rfl h

/-- Escaped bytes are read back, whatever follows them. -/
theorem unescape_escape_append (case : HexCase) (bytes : List UInt8) (rest : List UInt8) :
    unescape (asciiBytes (escape case bytes) ++ rest) = (unescape rest).map (bytes ++ ·) := by
  induction bytes with
  | nil => simp [escape, asciiBytes]
  | cons b bs ih =>
    have h : asciiBytes (escape case (b :: bs)) ++ rest
        = 0x25 :: (case.digit (b.toNat / 16)).toNat.toUInt8
          :: (case.digit (b.toNat % 16)).toNat.toUInt8
          :: (asciiBytes (escape case bs) ++ rest) := rfl
    rw [h, unescape, escapedByte?_digits, ih]
    cases unescape rest <;> rfl

end CharStream.Percent
