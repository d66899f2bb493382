import CharStream.Count

/-!
# Options of a line scanner

The one option is the length of the scan buffer. Lines may be longer; they are then read buffer
by buffer. To tell a carriage return from a carriage return and line feed at the very end of the
buffer, the scanner looks one character further than the buffer is long.

The limit of memory is not modelled. To set aside a scan buffer of a length near the largest count
must fail, and here it does not, so a result for every length speaks of those that can be set aside.
-/

namespace CharStream

/-- How many characters a line scanner scans before it spills them. -/
structure LineOptions where
  maxLineLength : Nat := 4096
  positive : 0 < maxLineLength := by decide
deriving DecidableEq

namespace LineOptions

/-- The options that hold when none are given. -/
def default : LineOptions := {}

instance : Inhabited LineOptions := ⟨default⟩

/-- The options with a buffer of `n` characters, if that is a length at all. -/
def ofLength? (n : Nat) : Option LineOptions :=
  if h : 0 < n then some ⟨n, h⟩ else none

/-- The look-ahead that a source must grant: one character more than the buffer holds. -/
def readAhead (o : LineOptions) : Nat := Count.next o.maxLineLength

end LineOptions

end CharStream
