import CharStream.Reader

/-!
# One bounded mark for any reader

`ReplayBuffer` makes a plain reader rewindable. While a mark is set, every character handed out is
also kept, so a rewind can hand the same characters out again.

**The state.** `pending` holds characters that were taken from the inner reader and are to be
handed out before anything new. A mark knows its limit and what has been handed out since. Handing
out more than the limit drops the mark, and with it the characters behind; what is pending stays.

**Memory.** A mark's limit is at most the capacity, so no more than the capacity is ever kept.

A read is served from what is pending or by one read of the inner reader, never by both, and a
read of length zero touches nothing.
-/

namespace CharStream

variable {ρ ε : Type}

/-! ## Errors -/

/-- Why a replay buffer refuses. -/
inductive ReplayError (ε : Type) where
  /-- The inner reader failed. -/
  | read (cause : ε)
  /-- A mark asked for more look-ahead than the buffer may hold. -/
  | lookahead (requested supported : Nat)
  /-- There is no mark to return to. -/
  | noMark
deriving DecidableEq

instance [ToString ε] : ToString (ReplayError ε) where
  toString
    | .read cause => "read error: " ++ toString cause
    | .lookahead requested supported =>
      "mark of " ++ toString requested ++ " characters exceeds the buffer capacity of "
        ++ toString supported
    | .noMark => "reset without a valid mark"

/-! ## State -/

/-- A remembered position: how many characters may be handed out past it, and those that were. -/
structure ReplayBuffer.Mark where
  limit : Nat
  handed : Array Char := #[]
deriving DecidableEq

/-- The reader `inner` with one mark of at most `capacity` characters. Unless another is given, the
capacity is what a line scanner with its usual options needs. -/
structure ReplayBuffer (ρ : Type) where
  inner : ρ
  capacity : Nat := 4097
  pending : List Char := []
  marked : Option ReplayBuffer.Mark := none
deriving DecidableEq

namespace ReplayBuffer

/-- Counts `cs` as handed out; a mark that is left more than its limit behind is dropped. -/
def Mark.advance (cs : List Char) (m : Mark) : Option Mark :=
  let handed := m.handed ++ cs
  if handed.size ≤ m.limit then some { m with handed } else none

/-- The characters kept for a rewind, and those pending. -/
def retained (b : ReplayBuffer ρ) : List Char :=
  (match b.marked with
   | some m => m.handed.toList
   | none => []) ++ b.pending

/-- How far the next character to hand out is from the start of what is retained. -/
def position (b : ReplayBuffer ρ) : Nat :=
  match b.marked with
  | some m => m.handed.size
  | none => 0

/-! ## Operations -/

/-- Hands out pending characters, or what one read of the inner reader brings. -/
def read [Reader ρ ε] (n : Nat) (b : ReplayBuffer ρ) :
    Except (ReplayError ε) (List Char) × ReplayBuffer ρ :=
  if n = 0 then (.ok [], b)
  else if b.pending.isEmpty then
    match Reader.read n b.inner with
    | (.error e, inner) => (.error (.read e), { b with inner })
    | (.ok cs, inner) => (.ok cs, { b with inner, marked := b.marked.bind (Mark.advance cs) })
  else
    let cs := b.pending.take n
    (.ok cs, { b with pending := b.pending.drop n, marked := b.marked.bind (Mark.advance cs) })

/-- Marks the position, if the look-ahead fits the capacity. What was kept before is let go; what
is pending stays. -/
def mark (limit : Nat) (b : ReplayBuffer ρ) : Except (ReplayError ε) Unit × ReplayBuffer ρ :=
  if b.capacity < limit then (.error (.lookahead limit b.capacity), b)
  else (.ok (), { b with marked := some { limit } })

/-- Puts everything handed out since the mark in front again; the mark stays. -/
def rewind (b : ReplayBuffer ρ) : Except (ReplayError ε) Unit × ReplayBuffer ρ :=
  match b.marked with
  | none => (.error .noMark, b)
  | some m =>
    (.ok (), { b with
      pending := m.handed.toList ++ b.pending
      marked := some { m with handed := #[] } })

theorem length_read_le [Reader ρ ε] {n : Nat} {b : ReplayBuffer ρ} {cs : List Char}
    {b' : ReplayBuffer ρ} (h : b.read n = (.ok cs, b')) : cs.length ≤ n := by
  unfold read at h
  split at h
  · simp_all
  · split at h
    · split at h
      · simp at h
      · next hr =>
        simp only [Prod.mk.injEq, Except.ok.injEq] at h
        exact h.1 ▸ Reader.length_read_le hr
    · simp only [Prod.mk.injEq, Except.ok.injEq] at h
      rw [← h.1, List.length_take]
      omega

instance [Reader ρ ε] : Rewindable (ReplayBuffer ρ) (ReplayError ε) where
  read := read
  length_read_le := length_read_le
  lookahead b := b.capacity
  mark := mark
  rewind := rewind

end ReplayBuffer

end CharStream
