/-!
# Counts

Lengths and positions in a stream are counted in 64 bits. A count that would pass the largest one
stays there, so a request for "one more character" never wraps around to a small number.
-/

namespace CharStream.Count

/-- The largest count, `2 ^ 64 - 1`. -/
def largest : Nat := 18446744073709551615

/-- One more than `n`, or the largest count. -/
def next (n : Nat) : Nat := min (n + 1) largest

theorem next_eq {n : Nat} (h : n < largest) : next n = n + 1 := Nat.min_eq_left h

end CharStream.Count
