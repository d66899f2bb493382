/-!
# Scripts of byte reads

A byte stream brings its bytes in pieces of any size, sometimes fails, and may look ended for a
while. A script lays this down: pieces and faults in order.

A read takes from the first item only. A fault is used up and returned. A piece hands out as many
bytes as asked for and keeps the rest; when nothing is left of it, it is gone. An empty piece makes
one read bring nothing, and so do all reads after the last item.
-/

namespace CharStream

/-- What went wrong in a byte stream. -/
inductive FaultKind where
  /-- The read was interrupted and can be repeated at once. -/
  | interrupted
  | wouldBlock
  | unexpectedEof
  /-- There cannot be as much memory as the text of the bytes may take. -/
  | outOfMemory
  | other
deriving DecidableEq

/-- A failed read. -/
structure ByteFault where
  kind : FaultKind
  message : String
deriving DecidableEq

instance : ToString ByteFault := ⟨ByteFault.message⟩

/-- One item of a script. -/
inductive ByteItem where
  | bytes (piece : List UInt8)
  | fault (fault : ByteFault)
deriving DecidableEq

/-- A byte stream, item by item. -/
abbrev ByteScript := List ByteItem

namespace ByteScript

/-- Reads at most `n` bytes. -/
def read (n : Nat) : ByteScript → Except ByteFault (List UInt8) × ByteScript
  | [] => (.ok [], [])
  | .fault f :: items => (.error f, items)
  | .bytes piece :: items =>
    match piece.drop n with
    | [] => (.ok (piece.take n), items)
    | rest => (.ok (piece.take n), .bytes rest :: items)

/-- How many bytes the script still holds. -/
def left : ByteScript → Nat
  | [] => 0
  | .bytes piece :: items => piece.length + left items
  | .fault _ :: items => left items

/-- The number of bytes and items; a read of a positive length that brings something or fails makes
it smaller. -/
def size (script : ByteScript) : Nat := script.left + script.length

theorem length_read_le {n : Nat} {script : ByteScript} {bs : List UInt8} {rest : ByteScript}
    (h : read n script = (.ok bs, rest)) : bs.length ≤ n := by
  unfold read at h
  split at h
  · cases h
    exact Nat.zero_le n
  · cases h
  · split at h <;> cases h <;> exact List.length_take_le n _

theorem size_read_error {n : Nat} {script : ByteScript} {f : ByteFault} {rest : ByteScript}
    (h : read n script = (.error f, rest)) : rest.size < script.size := by
  unfold read at h
  split at h
  · simp at h
  · simp at h; simp [size, left, ← h.2]
  · split at h <;> simp at h

theorem size_read_cons {n : Nat} {script : ByteScript} {b : UInt8} {bs : List UInt8}
    {rest : ByteScript} (h : read n script = (.ok (b :: bs), rest)) : rest.size < script.size := by
  unfold read at h
  split at h
  · simp at h
  · simp at h
  · next piece items =>
    split at h
    · simp at h; simp [size, left, ← h.2]; omega
    · next rest' _ =>
      simp only [Prod.mk.injEq, Except.ok.injEq] at h
      have hn : n ≠ 0 := by rintro rfl; simp at h
      have hp : piece ≠ [] := by rintro rfl; simp at h
      have := List.length_pos_iff.2 hp
      rw [← h.2]
      simp [size, left, List.length_drop]
      omega

end ByteScript

end CharStream
