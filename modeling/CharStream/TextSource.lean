import CharStream.Count
import CharStream.Reader

/-!
# A text in memory as a source

The whole text is at hand, so nothing here can fail: reads bring everything that is asked for and
still there, any look-ahead is granted, and skipping just moves the position. Rewinding without a
mark returns to the start of the text.
-/

namespace CharStream

/-- A text, the number of its characters already taken, and the position to rewind to. -/
structure TextSource where
  text : Array Char
  pos : Nat := 0
  marked : Nat := 0
deriving DecidableEq

namespace TextSource

/-- A source at the start of `s`. -/
def ofString (s : String) : TextSource := { text := s.toList.toArray }

/-- How many characters are still to come. -/
def remaining (t : TextSource) : Nat := t.text.size - t.pos

/-- The characters still to come. -/
def rest (t : TextSource) : List Char := t.text.toList.drop t.pos

/-- Takes the next `n` characters, or as many as there are. -/
def read (n : Nat) (t : TextSource) : List Char × TextSource :=
  let cs := (t.text.extract t.pos (t.pos + n)).toList
  (cs, { t with pos := t.pos + cs.length })

/-- Moves past the next `n` characters, or as many as there are. -/
def skip (n : Nat) (t : TextSource) : Nat × TextSource :=
  let k := min n t.remaining
  (k, { t with pos := t.pos + k })

/-- Remembers the position. -/
def mark (t : TextSource) : TextSource := { t with marked := t.pos }

/-- Returns to the remembered position. -/
def rewind (t : TextSource) : TextSource := { t with pos := t.marked }

theorem read_fst (n : Nat) (t : TextSource) : (t.read n).1 = t.rest.take n := by
  simp [read, rest, List.extract_eq_take_drop]

theorem length_read_le (n : Nat) (t : TextSource) : (t.read n).1.length ≤ n := by
  simp only [read_fst, List.length_take, Nat.min_le_left]

theorem length_rest (t : TextSource) : t.rest.length = t.remaining := by
  simp [rest, remaining]

theorem rest_read (n : Nat) (t : TextSource) : (t.read n).2.rest = t.rest.drop n := by
  have h : (t.read n).2.pos = t.pos + min n (t.text.size - t.pos) := by
    simp [read]
  have ht : (t.read n).2.text = t.text := rfl
  simp only [rest, h, ht, List.drop_drop]
  by_cases hn : n ≤ t.text.size - t.pos
  · rw [Nat.min_eq_left hn]
  · rw [List.drop_eq_nil_of_le (by simp; omega), List.drop_eq_nil_of_le (by simp; omega)]

instance : Rewindable TextSource Empty where
  read n t := let (cs, t) := t.read n; (.ok cs, t)
  length_read_le := by
    intro n t cs t' h
    simp only [Prod.mk.injEq, Except.ok.injEq] at h
    exact h.1 ▸ length_read_le n t
  skip n t := let (k, t) := t.skip n; (.ok k, t)
  lookahead _ := Count.largest
  mark _ t := (.ok (), t.mark)
  rewind t := (.ok (), t.rewind)

end TextSource

end CharStream
