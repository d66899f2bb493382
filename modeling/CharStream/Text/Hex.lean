/-!
# Hexadecimal digits

Numbers and bytes in base sixteen, in either case of the letters.

Main results: `isDigit_digit` and `digit_of_hexValue?`, that the digits of a case and the values
below sixteen stand for each other.
-/

namespace CharStream

/-- The case of hexadecimal letters. -/
inductive HexCase where
  | lower
  | upper
deriving DecidableEq

namespace HexCase

/-- The digit for a value below sixteen. -/
def digit (case : HexCase) (n : Nat) : Char :=
  if n < 10 then Char.ofNat (0x30 + n)
  else match case with
    | .lower => Char.ofNat (0x61 + (n - 10))
    | .upper => Char.ofNat (0x41 + (n - 10))

/-- Whether a character is a digit in this case. -/
def isDigit (case : HexCase) (c : Char) : Bool :=
  c.isDigit || match case with
    | .lower => 'a' ≤ c && c ≤ 'f'
    | .upper => 'A' ≤ c && c ≤ 'F'

end HexCase

namespace Text

/-- The value of a hexadecimal digit in either case. -/
def hexValue? (c : Char) : Option Nat :=
  if '0' ≤ c ∧ c ≤ '9' then some (c.toNat - 0x30)
  else if 'a' ≤ c ∧ c ≤ 'f' then some (c.toNat - 0x61 + 10)
  else if 'A' ≤ c ∧ c ≤ 'F' then some (c.toNat - 0x41 + 10)
  else none

/-- A number in lower case, without leading zeros. -/
def hexOf (n : Nat) : List Char := Nat.toDigits 16 n

theorem lt_of_hexValue? {c : Char} {n : Nat} (h : hexValue? c = some n) : c.toNat < 0x80 := by
  have hle {d : Char} (hc : c ≤ d) (hd : d.toNat < 0x80) : c.toNat < 0x80 :=
    Nat.lt_of_le_of_lt hc hd
  unfold hexValue? at h
  split at h
  · next hc => exact hle hc.2 (by decide)
  · split at h
    · next hc => exact hle hc.2 (by decide)
    · split at h
      · next hc => exact hle hc.2 (by decide)
      · exact absurd h (by simp)

end Text

namespace HexCase

theorem isDigit_digit (case : HexCase) :
    ∀ n < 16, case.isDigit (case.digit n) = true ∧ Text.hexValue? (case.digit n) = some n := by
  cases case <;> decide

/-- A digit of the case is the one that its value is written as. -/
theorem digit_of_hexValue? {case : HexCase} {c : Char} {n : Nat} (hc : case.isDigit c = true)
    (hn : Text.hexValue? c = some n) : n < 16 ∧ case.digit n = c := by
  have hascii : ∀ m < 0x80, case.isDigit (Char.ofNat m) = true →
      ∀ n ∈ Text.hexValue? (Char.ofNat m), n < 16 ∧ case.digit n = Char.ofNat m := by
    cases case <;> decide +kernel
  have hchar := hascii c.toNat (Text.lt_of_hexValue? hn)
  rw [Char.ofNat_toNat] at hchar
  exact hchar hc n hn

end HexCase

end CharStream
