/-!
# Readers and rewindable sources

A *reader* hands out the characters of a stream from front to back. One read asks for at most `n`
characters and may get fewer; getting none although `n` is positive means that the stream has
ended, for now. A read may fail, and leaves a next state either way.

A *rewindable* reader can remember a position and return to it, as long as the reads in between
stay within the look-ahead that was asked for.

Reading one character and skipping are part of the interface because a source may know a better
way; `readOne` and `skipBy` derive both from `read`.
-/

namespace CharStream

variable {σ ε : Type}

/-! ## Operations derived from reads -/

/-- One character by a read of length one; `none` at the end of the stream. -/
def readOne (read : Nat → σ → Except ε (List Char) × σ) (s : σ) : Except ε (Option Char) × σ :=
  match read 1 s with
  | (.error e, s) => (.error e, s)
  | (.ok [c], s) => (.ok (some c), s)
  | (.ok _, s) => (.ok none, s)

/-- The longest single read of a skip. -/
def skipStride : Nat := 64

/-- Continues a skip of `n` characters of which `done` are behind: reads at most `skipStride` at a
time until all are skipped or a read brings nothing. -/
def skipFrom (read : Nat → σ → Except ε (List Char) × σ) (n done : Nat) (s : σ) :
    Except ε Nat × σ :=
  if done < n then
    match read (min (n - done) skipStride) s with
    | (.error e, s) => (.error e, s)
    | (.ok [], s) => (.ok done, s)
    | (.ok (_ :: cs), s) => skipFrom read n (done + (cs.length + 1)) s
  else (.ok done, s)
termination_by n - done

/-- Skips up to `n` characters by reading them; the answer is how many there were. -/
def skipBy (read : Nat → σ → Except ε (List Char) × σ) (n : Nat) (s : σ) : Except ε Nat × σ :=
  skipFrom read n 0 s

/-! ## The interfaces -/

/-- A stream of characters with state `σ` and read errors `ε`. -/
class Reader (σ : Type) (ε : outParam Type) where
  /-- Takes at most `n` characters; none of a positive `n` is the end of the stream. -/
  read : Nat → σ → Except ε (List Char) × σ
  /-- A read never brings more than it was asked for. -/
  length_read_le : ∀ {n s cs s'}, read n s = (.ok cs, s') → cs.length ≤ n
  /-- Takes one character; `none` at the end of the stream. -/
  readChar : σ → Except ε (Option Char) × σ := readOne read
  /-- Drops up to `n` characters and says how many; fewer than `n` means the stream ended. -/
  skip : Nat → σ → Except ε Nat × σ := skipBy read

/-- A reader that can return to a remembered position. -/
class Rewindable (σ : Type) (ε : outParam Type) extends Reader σ ε where
  /-- The largest look-ahead that `mark` grants. -/
  lookahead : σ → Nat
  /-- Remembers the position, for a rewind after at most that many characters. -/
  mark : Nat → σ → Except ε Unit × σ
  /-- Returns to the position last marked. -/
  rewind : σ → Except ε Unit × σ

end CharStream
