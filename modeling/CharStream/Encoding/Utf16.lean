import CharStream.Encoding.Malformed
import CharStream.Utf16

/-!
# UTF-16 as bytes

Two bytes make a unit, in either order. A unit that is no surrogate is a character; a high
surrogate waits for a low one. A surrogate without its partner is one error, and the unit that
should have been the partner is read anew.
-/

namespace CharStream.Encoding.Utf16

/-- Which byte of a unit comes first. -/
inductive ByteOrder where
  | big
  | little
deriving DecidableEq

/-- The unit of two bytes in the order in which they came. -/
def ByteOrder.unit (order : ByteOrder) (a b : UInt8) : UInt16 :=
  match order with
  | .big => a.toUInt16 * 0x100 + b.toUInt16
  | .little => b.toUInt16 * 0x100 + a.toUInt16

/-- A high surrogate that waits for its partner, and the first byte of a unit. -/
structure State where
  high : Option UInt16 := none
  byte : Option UInt8 := none
deriving DecidableEq

/-- Reads a unit while no surrogate waits. -/
def firstUnit (u : UInt16) : List Char × State :=
  if CharStream.Utf16.isHigh u then ([], { high := some u })
  else if CharStream.Utf16.isLow u then ([replacementChar], {})
  else ([Char.ofNat u.toNat], {})

/-- Reads a unit. -/
def unitStep (high : Option UInt16) (u : UInt16) : List Char × State :=
  match high with
  | none => firstUnit u
  | some h =>
    if CharStream.Utf16.isLow u then ([CharStream.Utf16.combine h u], {})
    else
      let (cs, s) := firstUnit u
      (replacementChar :: cs, s)

/-- Reads one byte. -/
def step (order : ByteOrder) (s : State) (b : UInt8) : List Char × State :=
  match s.byte with
  | none => ([], { s with byte := some b })
  | some a => unitStep s.high (order.unit a b)

/-- What the end of the input leaves: half a unit, half a pair, or both, are one error. -/
def finish (s : State) : List Char :=
  if s.high.isSome || s.byte.isSome then [replacementChar] else []

end CharStream.Encoding.Utf16
