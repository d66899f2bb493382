import CharStream.TextSource

/-!
# Readers that follow a plan

A real stream chooses for itself how many characters a read brings and when a call fails. Here
both are laid down in advance, call by call, over a text in memory; a layer above can so be
exercised with every pattern of short reads, temporary ends and failures. A failing call takes
nothing and moves nothing.

`PlannedReader` plans the reads only. `PlannedSource` plans marks, rewinds and skips too, and its
skips may fall short.
-/

namespace CharStream

variable {ε : Type}

/-! ## Reads -/

/-- A text whose reads are planned: read number `k`, from one on, brings at most `plan k`
characters or fails. -/
structure PlannedReader (ε : Type) where
  text : TextSource
  plan : Nat → Except ε Nat
  reads : Nat := 0

namespace PlannedReader

/-- One planned read. -/
def read (n : Nat) (p : PlannedReader ε) : Except ε (List Char) × PlannedReader ε :=
  let p := { p with reads := p.reads + 1 }
  match p.plan p.reads with
  | .error e => (.error e, p)
  | .ok most =>
    let (cs, text) := p.text.read (min n most)
    (.ok cs, { p with text })

theorem length_read_le {n : Nat} {p : PlannedReader ε} {cs : List Char} {p' : PlannedReader ε}
    (h : p.read n = (.ok cs, p')) : cs.length ≤ n := by
  simp only [read] at h
  split at h
  · simp at h
  · next most _ =>
    simp only [Prod.mk.injEq, Except.ok.injEq] at h
    have := TextSource.length_read_le (min n most) p.text
    rw [h.1] at this
    omega

instance : Reader (PlannedReader ε) ε where
  read := read
  length_read_le := length_read_le

end PlannedReader

/-! ## All calls of a source -/

/-- A planned reader that can be rewound. Marks, rewinds and skips are counted one by one from
one on; a plan says whether call number `k` fails, and for a skip by how many characters it falls
short. -/
structure PlannedSource (ε : Type) where
  reader : PlannedReader ε
  lookahead : Nat
  markPlan : Nat → Except ε Unit
  rewindPlan : Nat → Except ε Unit
  skipPlan : Nat → Except ε Nat
  marks : Nat := 0
  rewinds : Nat := 0
  skips : Nat := 0

namespace PlannedSource

/-- A planned read. -/
def read (n : Nat) (p : PlannedSource ε) : Except ε (List Char) × PlannedSource ε :=
  let (r, reader) := p.reader.read n
  (r, { p with reader })

/-- Applies a change to the text below. -/
def onText (p : PlannedSource ε) (f : TextSource → TextSource) : PlannedSource ε :=
  { p with reader.text := f p.reader.text }

/-- A planned mark; the look-ahead that it asks for is not looked at. -/
def mark (p : PlannedSource ε) : Except ε Unit × PlannedSource ε :=
  let p := { p with marks := p.marks + 1 }
  match p.markPlan p.marks with
  | .error e => (.error e, p)
  | .ok () => (.ok (), p.onText TextSource.mark)

/-- A planned rewind. -/
def rewind (p : PlannedSource ε) : Except ε Unit × PlannedSource ε :=
  let p := { p with rewinds := p.rewinds + 1 }
  match p.rewindPlan p.rewinds with
  | .error e => (.error e, p)
  | .ok () => (.ok (), p.onText TextSource.rewind)

/-- A planned skip. -/
def skip (n : Nat) (p : PlannedSource ε) : Except ε Nat × PlannedSource ε :=
  let p := { p with skips := p.skips + 1 }
  match p.skipPlan p.skips with
  | .error e => (.error e, p)
  | .ok short =>
    let (k, text) := p.reader.text.skip (n - short)
    (.ok k, p.onText fun _ => text)

instance : Rewindable (PlannedSource ε) ε where
  read := read
  length_read_le := by
    intro n p cs p' h
    simp only [read, Prod.mk.injEq] at h
    exact PlannedReader.length_read_le (Prod.ext h.1 rfl)
  skip := skip
  lookahead p := p.lookahead
  mark _ p := p.mark
  rewind := rewind

end PlannedSource

end CharStream
