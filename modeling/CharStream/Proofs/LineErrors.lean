import CharStream.Proofs.NextLine
import CharStream.Proofs.Recording

/-!
# Which errors a line meets

A line is looked for in the source, and fetched from it once more after a rewind. A source that can
look one buffer and one character ahead never lets this down: the mark outlasts the search, so the
rewind puts back all that the line takes, and the skip over it finds it there.

* `nextLine_fails` — the call fails only if a read of the inner reader does, and that is the last
  read of the call.
* `take_replayed` — the line that was found is skipped without the inner reader.
* `nextLine_refused` — a source that cannot look that far ahead is refused before it is touched.

`nextLine_errors` joins them, for every state that calls, failures and reads behind the back of the
source may have left.
-/

namespace CharStream

open Line (Found)

variable {ρ ε : Type} [Reader ρ ε]

theorem nextLine_refused {fuel : Nat} {w : LineScanner (ReplayBuffer ρ)}
    (hcapacity : w.source.capacity ≤ w.options.maxLineLength)
    (hmax : w.options.maxLineLength < Count.largest) :
    w.nextLine fuel
      = some (.error (.lookahead (w.options.maxLineLength + 1) w.source.capacity), w) := by
  have hahead : w.options.readAhead = w.options.maxLineLength + 1 := Count.next_eq hmax
  have hlt : Rewindable.lookahead w.source < w.options.readAhead := by
    rw [hahead]
    exact Nat.lt_succ_of_le hcapacity
  rw [LineScanner.nextLine, if_pos hlt, hahead]
  rfl

section Enough

variable {fuel : Nat}

/-- **A call that fails** does so with the last read of the inner reader. -/
theorem nextLine_fails {w w' : LineScanner (ReplayBuffer (Recorder ρ ε))}
    {x : LineError (ReplayError ε)} (hcapacity : w.options.maxLineLength + 1 ≤ w.source.capacity)
    (hcount : w.source.capacity ≤ Count.largest) (h : w.nextLine fuel = some (.error x, w')) :
    ∃ (ps : List (List Char)) (e : ε), x = .source (.read e) ∧
      w'.source.inner.log = w.source.inner.log ++ ps.map .ok ++ [.error e] := by
  have hw := w.source.holds
  obtain ⟨-, handed, ahead', r', hw', hline⟩ :=
    (replayBuffer_serves hcount).nextLine_cases hcapacity hw h
  cases hline with
  | @failed ps e k spilled kept r₁ _ hps hf =>
    refine ⟨ps, e, rfl, ?_⟩
    rw [hw'.inner, hf.log, hps.log]

/-- **The line that was found** is put back by the rewind, and the skip takes it from there. -/
theorem take_replayed {w : LineScanner (ReplayBuffer ρ)}
    (hcapacity : w.options.maxLineLength + 1 ≤ w.source.capacity)
    (hcount : w.source.capacity ≤ Count.largest) {found : Found} {buf : Array Char}
    {b : ReplayBuffer ρ}
    (h : Line.find w.options fuel "" w.buffer w.source = some (.ok (some found), buf, b)) :
    ∃ b₁ b₂, Rewindable.rewind b = (.ok (), b₁) ∧
      Reader.skip found.taken b₁ = (.ok found.taken, b₂) ∧ b₁.inner = b.inner ∧
      b₂.inner = b.inner ∧
      w.nextLine fuel = some (.ok (some (found.spilled ++ Line.text buf found.length)),
        { w with buffer := buf, source := b₂ }) := by
  have hahead : w.options.readAhead = w.options.maxLineLength + 1 :=
    Count.next_eq (Nat.lt_of_lt_of_le hcapacity hcount)
  have hle : w.options.readAhead ≤ w.source.capacity := hahead ▸ hcapacity
  have hR : Replays (σ := ReplayBuffer ρ) w.options.readAhead w.options.readAhead ReplayError.read
      (ReplayBuffer.At w.source.capacity w.options.readAhead) := replayBuffer_replays hle
  have hw := w.source.holds
  obtain ⟨handed, ahead, r, hat, hcovers⟩ := hR.covers rfl (by omega) (hw.unmarked _) h
  obtain ⟨b₁, hrewind, hat₁⟩ := hR.rewind hat
  have hpending : found.taken ≤ b₁.pending.length := by
    rw [hat₁.pending, List.length_append]
    omega
  obtain ⟨b₂, hskip, hinner, -⟩ := ReplayBuffer.skip_pending (ε := ε) hpending
  have hsame : b₁.inner = b.inner := hat₁.inner.trans hat.inner.symm
  refine ⟨b₁, b₂, hrewind, hskip, hsame, hinner.trans hsame, ?_⟩
  have hsupported : ¬ Rewindable.lookahead w.source < w.options.readAhead := Nat.not_lt.2 hle
  rw [LineScanner.nextLine, if_neg hsupported, h]
  simp [Found.take, hrewind, hskip, Except.map]

end Enough

/-- **A line fails only with the inner reader**, whatever state the buffer is in: the error is one
that the inner reader answered last, no mark, rewind or skip fails, and from the rewind on the inner
reader is not called. A buffer that cannot look far enough ahead refuses the call, and is not
touched. -/
theorem nextLine_errors (w : LineScanner (ReplayBuffer ρ))
    (hcount : w.source.capacity ≤ Count.largest) (fuel : Nat) :
    let max := w.options.maxLineLength
    let recorded : LineScanner (ReplayBuffer (Recorder ρ ε)) := w.mapSource ReplayBuffer.recorded
    w.nextLine fuel =
        (recorded.nextLine fuel).map (Prod.map id (·.mapSource ReplayBuffer.unrecorded)) ∧
      (max + 1 ≤ w.source.capacity →
        (∀ x w', recorded.nextLine fuel = some (.error x, w') →
          ∃ (ps : List (List Char)) (e : ε), x = .source (.read e) ∧
            w'.source.inner.log = ps.map .ok ++ [.error e]) ∧
        (∀ found buf b,
          Line.find w.options fuel "" w.buffer recorded.source = some (.ok (some found), buf, b) →
          ∃ b₁ b₂, Rewindable.rewind b = (.ok (), b₁) ∧
            Reader.skip found.taken b₁ = (.ok found.taken, b₂) ∧ b₁.inner = b.inner ∧
            b₂.inner = b.inner ∧
            recorded.nextLine fuel = some (.ok (some (found.spilled ++ Line.text buf found.length)),
              { recorded with buffer := buf, source := b₂ })) ∧
        (w.nextLine fuel = none →
          ∃ ps r, Reads w.source.inner ps r ∧ fuel ≤ (w.source.pending ++ ps.flatten).length)) ∧
      (w.source.capacity ≤ max → max < Count.largest →
        w.nextLine fuel = some (.error (.lookahead (max + 1) w.source.capacity), w)) := by
  intro max recorded
  refine ⟨recorder_mirrors.nextLine fuel recorded, ?_, nextLine_refused⟩
  intro hcapacity
  refine ⟨?_, ?_, ?_⟩
  · intro x w' h
    exact nextLine_fails hcapacity hcount h
  · intro found buf b h
    exact take_replayed (w := recorded) hcapacity hcount h
  · intro h
    exact (replayBuffer_serves hcount).nextLine_none hcapacity w.source.holds h

/-- A mark of another call that is still set, a character pending, and a reader that fails in the
second buffer of the line; and a line length for which the source is too small. -/
theorem nextLine_errors_second_buffer :
    let inner : PlannedReader String := {
      text := .ofString "ab\r\ncde"
      plan := fun k => if k = 2 then .error "gone" else .ok 2 }
    let source : ReplayBuffer (PlannedReader String) := {
      inner
      capacity := 3
      pending := ['x']
      marked := some { limit := 1, handed := #['y'] } }
    let w : LineScanner (ReplayBuffer (PlannedReader String)) :=
      { source, options := ⟨2, by decide⟩ }
    let recorded : LineScanner (ReplayBuffer (Recorder (PlannedReader String) String)) :=
      w.mapSource ReplayBuffer.recorded
    source.capacity ≤ Count.largest ∧
      (∃ x w', recorded.nextLine 8 = some (.error x, w') ∧ x = .source (.read "gone") ∧
        ∃ ps : List (List Char), w'.source.inner.log = ps.map .ok ++ [.error "gone"]) ∧
      ({ w with options := ⟨3, by decide⟩ } : LineScanner _).nextLine 8
        = some (.error (.lookahead 4 3), { w with options := ⟨3, by decide⟩ }) := by
  intro inner source w recorded
  have hcount : source.capacity ≤ Count.largest := by decide
  have hcapacity : w.options.maxLineLength + 1 ≤ w.source.capacity := by decide
  have hcall : (recorded.nextLine 8).map (·.1) = some (.error (.source (.read "gone"))) := by
    decide +kernel
  refine ⟨hcount, ?_, ?_⟩
  · obtain ⟨⟨_, w'⟩, h, rfl⟩ := Option.map_eq_some_iff.1 hcall
    obtain ⟨ps, e, he, hlog⟩ := ((nextLine_errors w hcount 8).2.1 hcapacity).1 _ w' h
    cases he
    exact ⟨_, w', h, rfl, ps, hlog⟩
  · exact (nextLine_errors { w with options := ⟨3, by decide⟩ } hcount 8).2.2 (by decide)
      (by decide)

end CharStream
