import CharStream.Reader

/-!
# Readers in small pieces

`Chunked` passes every read on to an inner reader, but asks for at most a fixed number of
characters. The characters and their order stay the same; only the pieces get smaller.
-/

namespace CharStream

/-- The reader `inner`, asked for at most `most` characters at a time. -/
structure Chunked (ρ : Type) where
  inner : ρ
  most : Nat

namespace Chunked

variable {ρ ε : Type}

/-- One read of the inner reader, cut to the piece size. -/
def read [Reader ρ ε] (n : Nat) (c : Chunked ρ) : Except ε (List Char) × Chunked ρ :=
  let (r, inner) := Reader.read (min n c.most) c.inner
  (r, { c with inner })

instance [Reader ρ ε] : Reader (Chunked ρ) ε where
  read := read
  length_read_le := by
    intro n c cs c' h
    simp only [read, Prod.mk.injEq] at h
    have := Reader.length_read_le (Prod.ext h.1 rfl)
    omega

end Chunked

end CharStream
