/-!
# Whole numbers as doubles

A double keeps 53 significant bits. A whole number with more of them is rounded to the nearest one
that has no more, and of two that are equally near to the one whose last bit is zero. What rounds
to `2 ^ 1024` or above is no finite double.

This is for running alone, like all of the reading of JSON: no theorem rests on it.
-/

namespace CharStream.Binary64

/-- The weight of the last bit that is kept of `n`. -/
def lastBit (n : Nat) : Nat := Nat.pow 2 (n.log2 - 52)

/-- The double nearest to `n`, whatever its size. -/
def nearest (n : Nat) : Nat :=
  let kept := n / lastBit n
  let lost := 2 * (n % lastBit n)
  let up := lastBit n < lost ∨ (lastBit n = lost ∧ kept % 2 = 1)
  (if up then kept + 1 else kept) * lastBit n

/-- Numbers from here on are nearer to `2 ^ 1024` than to the largest finite double, or as near. -/
def overflow : Nat := Nat.pow 2 1024 - Nat.pow 2 970

end CharStream.Binary64
