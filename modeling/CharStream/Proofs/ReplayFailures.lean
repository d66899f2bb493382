import CharStream.Proofs.Cursor
import CharStream.Proofs.Replaying

/-!
# What a failed call leaves behind

A replay buffer changes its state only when nothing can fail any more. So a mark that is refused, a
rewind without a mark and a read that fails leave it as it was, but for what the reader below did to
itself.

A skip is many reads, and may fail in the midst of them: after characters that were pending, after
some that were fetched, and perhaps with the mark lost on the way. What it has passed by then is
what was pending and what the reader had brought, and a mark that is still near enough leads back
over all of it.

* `read_failed` — a read fails with the reader, and touches nothing else.
* `Represents.skip_failed` — how far a skip comes that fails.
* `nextUp_pending` — what is pending comes before the reader is asked again.
* `replayBuffer_failures` — all this from every state that calls lead to.
-/

namespace CharStream

variable {σ ρ ε : Type}

/-! ## What comes next -/

/-- The next reads bring `cs` before anything else; until then none of them fails or reports the
end. -/
structure NextUp [Reader σ ε] (s : σ) (cs : List Char) : Prop where
  brings {ps : List (List Char)} {s' : σ} :
    Reads s ps s' → ps.flatten <+: cs ∨ cs <+: ps.flatten
  ends {ps : List (List Char)} {s' : σ} : Reads s ps s' → Ended ps → cs <+: ps.flatten
  fails {ps : List (List Char)} {s₁ s' : σ} {e : ε} :
    Reads s ps s₁ → Fails s₁ e s' → cs <+: ps.flatten

theorem NextUp.of_prefix [Reader σ ε] {s : σ} {cs ds : List Char} (h : NextUp s ds)
    (hcs : cs <+: ds) : NextUp s cs where
  brings {ps s'} hps := by
    rcases h.brings hps with hpre | hpre
    · exact List.prefix_or_prefix_of_prefix hpre hcs
    · exact .inr (hcs.trans hpre)
  ends {ps s'} hps hended := hcs.trans (h.ends hps hended)
  fails {ps s₁ s' e} hps hf := hcs.trans (h.fails hps hf)

namespace ReplayBuffer

variable [Reader ρ ε] {b b' : ReplayBuffer ρ}

theorem nextUp_pending (b : ReplayBuffer ρ) : NextUp (ε := ReplayError ε) b b.pending where
  brings {ps b'} hps := by
    obtain ⟨qs, ahead, r, -, hcons, -, -⟩ := b.holds.reads hps
    have hread : ps.flatten <+: b.pending ++ qs.flatten := ⟨ahead, hcons.symm⟩
    exact List.prefix_or_prefix_of_prefix hread (List.prefix_append _ _)
  ends {ps b'} hps hended := by
    obtain ⟨qs, ahead, r, -, hcons, hend, -⟩ := b.holds.reads hps
    rw [(hend hended).1, List.append_nil] at hcons
    exact ⟨qs.flatten, hcons⟩
  fails {ps b₁ b' e} hps hf := by
    obtain ⟨qs, ahead, r, -, hcons, -, hb₁⟩ := b.holds.reads hps
    obtain ⟨-, -, -, hnil, -, -⟩ :=
      (replayBuffer_replays (Nat.zero_le b.capacity)).failed (hb₁.unmarked 0) hf
    rw [hnil, List.append_nil] at hcons
    exact ⟨qs.flatten, hcons⟩

/-! ## Reads that fail -/

/-- **A read that fails** has asked the reader, and leaves all else as it was. -/
theorem read_failed {n : Nat} {e' : ReplayError ε} (h : Reader.read n b = (.error e', b')) :
    ∃ e, e' = .read e ∧ Reader.read n b.inner = (.error e, b'.inner) ∧
      b' = { b with inner := b'.inner } := by
  have hn : 0 < n := by
    rw [Nat.pos_iff_ne_zero]
    rintro rfl
    cases h
  rcases read_cases hn h with ⟨-, hx, -⟩ | ⟨-, cs, inner, -, hx, -⟩ | ⟨-, e, inner, hr, hx, rfl⟩
  · cases hx
  · cases hx
  · exact ⟨e, Except.error.inj hx, hr, rfl⟩

end ReplayBuffer

/-! ## Skips that fail -/

namespace Represents

variable {b b' : ReplayBuffer ρ} {c : Cursor}

theorem pending_eq (h : Represents b c) : b.pending = c.delivered.drop c.pos := by
  obtain ⟨front, hdelivered, hpos⟩ := h.front
  rw [hdelivered, hpos, List.drop_left]

/-- **A skip that fails** has passed what was pending and what the reader brought before it failed,
and that is less than it was asked to pass. -/
theorem skip_failed [Reader ρ ε] (h : Represents b c) {n : Nat} {e' : ReplayError ε}
    (hskip : Reader.skip n b = (.error e', b')) :
    ∃ e ps r₁ c', e' = .read e ∧ Reads b.inner ps r₁ ∧ Fails r₁ e b'.inner ∧
      (b.pending ++ ps.flatten).length < n ∧ c.Moved ps (b.pending ++ ps.flatten).length c' ∧
      c.passed c' = b.pending ++ ps.flatten ∧ Represents b' c' := by
  rcases skipBy_cases hskip with ⟨ps, hx, -⟩ | ⟨e', ps, b₁, hx, hps, hf, hlt⟩
  · cases hx
  · obtain rfl := Except.error.inj hx
    obtain ⟨qs, c', hqs, hmoved, hpassed, -, hrep, -⟩ := h.reads hps
    obtain ⟨e, rfl, hf', hpos, hrep', -⟩ := hrep.fails hf
    -- The reader fails only when everything delivered is passed.
    have hall : ps.flatten = b.pending ++ qs.flatten := by
      calc ps.flatten
          = (c'.delivered.take c'.pos).drop c.pos := hpassed.symm
        _ = (c.delivered ++ qs.flatten).drop c.pos := by
            rw [hpos, List.take_length, hmoved.delivered]
        _ = b.pending ++ qs.flatten := by
            rw [List.drop_append_of_le_length h.inside, h.pending_eq]
    rw [hall] at hlt hmoved hpassed
    exact ⟨e, qs, b₁.inner, c', rfl, hqs, hf', hlt, hmoved, hpassed, hrep'⟩

/-- **Back to a mark** that is near enough: all that was passed since comes next. -/
theorem rewind_near [Reader ρ ε] {c' : Cursor} {ps : List (List Char)} {k m limit : Nat}
    (h : Represents b' c') (hmoved : c.Moved ps k c') (hmark : c.mark = some (m, limit))
    (hnear : c'.pos ≤ m + limit) :
    ∃ b'', Rewindable.rewind b' = (.ok (), b'') ∧ Represents b'' { c' with pos := m } ∧
      NextUp (ε := ReplayError ε) b'' (({ c' with pos := m } : Cursor).passed c') := by
  have hkept : c'.mark = some (m, limit) := by
    rw [hmoved.mark, hmark]
    simp [Option.filter, hnear]
  obtain ⟨-, -, ⟨m', limit', hmark', hx, hrep⟩ | ⟨hnone, -⟩⟩ :=
    h.rewind (Prod.eta (b'.rewind (ε := ε))).symm
  · obtain ⟨rfl, rfl⟩ := Prod.mk.inj (Option.some.inj (hkept.symm.trans hmark'))
    refine ⟨_, Prod.ext hx rfl, hrep, ?_⟩
    have hnext := ReplayBuffer.nextUp_pending (ε := ε) (b'.rewind (ε := ε)).2
    rw [hrep.pending_eq] at hnext
    have hpassed : ({ c' with pos := m } : Cursor).passed c' <+: c'.delivered.drop m := by
      rw [Cursor.passed, List.drop_take]
      exact List.take_prefix _ _
    exact hnext.of_prefix hpassed
  · rw [hkept] at hnone
    cases hnone

end Represents

/-! ## Every state that calls lead to -/

theorem Represents.unrecorded {b : ReplayBuffer (Recorder ρ ε)} {c : Cursor}
    (h : Represents b c) : Represents b.unrecorded c := by
  cases h with
  | unmarked hnone => exact .unmarked hnone
  | marked hsome hle => exact .marked hsome hle

theorem Represents.after [Reader ρ ε] (calls : List Call) {b : ReplayBuffer (Recorder ρ ε)}
    {c : Cursor} (h : Represents b c) :
    (∃ c', Represents (after calls b) c') ∧ (after calls b).capacity = b.capacity := by
  induction calls generalizing b c with
  | nil => exact ⟨⟨c, h⟩, rfl⟩
  | cons call calls ih =>
    obtain ⟨-, c', -, -, hrep, hcap⟩ := call_step h (Prod.eta (call.run b)).symm
    obtain ⟨hafter, hcap'⟩ := ih hrep
    exact ⟨hafter, hcap'.trans hcap⟩

theorem represents_reachable [Reader ρ ε] (r : ρ) (capacity : Nat) (calls : List Call) :
    (∃ c, Represents (after calls ({ inner := r, capacity } : ReplayBuffer ρ)) c) ∧
      (after calls ({ inner := r, capacity } : ReplayBuffer ρ)).capacity = capacity := by
  have hstart :
      Represents ({ inner := { inner := r }, capacity } : ReplayBuffer (Recorder ρ ε)) {} :=
    @Represents.unmarked _ _ [] rfl
  obtain ⟨⟨c, hrep⟩, hcap⟩ := hstart.after calls
  have hsame := recorder_mirrors.after calls
    ({ inner := { inner := r }, capacity } : ReplayBuffer (Recorder ρ ε))
  have hunrecorded : ({ inner := r, capacity } : ReplayBuffer ρ)
      = ReplayBuffer.unrecorded
          ({ inner := { inner := r }, capacity } : ReplayBuffer (Recorder ρ ε)) := rfl
  rw [hunrecorded, hsame]
  exact ⟨⟨c, hrep.unrecorded⟩, hcap⟩

/-- **A failed call spoils nothing**, in any state that calls lead to. A mark that is refused, a
rewind without a mark and a read that fails leave the buffer as it is. A skip that fails has passed
what was pending and what the reader brought before it failed, and a rewind to a mark that is near
enough takes all of that back. -/
theorem replayBuffer_failures [Reader ρ ε] (r : ρ) (capacity : Nat) (calls : List Call) :
    let b : ReplayBuffer ρ := after calls { inner := r, capacity }
    (∃ c, Represents b c) ∧
      (∀ limit, capacity < limit →
        Rewindable.mark limit b = (.error (.lookahead limit capacity), b)) ∧
      (b.marked = none → Rewindable.rewind b = (.error .noMark, b)) ∧
      (∀ n e' b', Reader.read n b = (.error e', b') →
        ∃ e, e' = .read e ∧ Reader.read n b.inner = (.error e, b'.inner) ∧
          b' = { b with inner := b'.inner }) ∧
      ∀ c n e' b', Represents b c → Reader.skip n b = (.error e', b') →
        ∃ e ps r₁ c', e' = .read e ∧ Reads b.inner ps r₁ ∧ Fails r₁ e b'.inner ∧
          (b.pending ++ ps.flatten).length < n ∧
          c.Moved ps (b.pending ++ ps.flatten).length c' ∧
          c.passed c' = b.pending ++ ps.flatten ∧ Represents b' c' ∧
          ∀ m limit, c.mark = some (m, limit) → c'.pos ≤ m + limit →
            ∃ b'', Rewindable.rewind b' = (.ok (), b'') ∧ Represents b'' { c' with pos := m } ∧
              NextUp (ε := ReplayError ε) b'' (({ c' with pos := m } : Cursor).passed c') := by
  intro b
  obtain ⟨hrep₀, hcap⟩ := represents_reachable r capacity calls
  refine ⟨hrep₀, ?_, ?_, ?_, ?_⟩
  · intro limit hlt
    rw [← hcap] at hlt ⊢
    exact if_pos hlt
  · intro hnone
    show b.rewind = _
    rw [ReplayBuffer.rewind, hnone]
  · intro n e' b' h
    exact ReplayBuffer.read_failed h
  · intro c n e' b' hrep h
    obtain ⟨e, ps, r₁, c', he, hps, hf, hlt, hmoved, hpassed, hrep'⟩ := hrep.skip_failed h
    refine ⟨e, ps, r₁, c', he, hps, hf, hlt, hmoved, hpassed, hrep', ?_⟩
    intro m limit hmark hnear
    exact hrep'.rewind_near hmoved hmark hnear

/-- A mark that is set while characters are pending, and a skip that goes on from these to the
reader, which fails at its third read. -/
theorem replayBuffer_failures_midway :
    let inner : PlannedReader String := {
      text := .ofString "abcdef"
      plan := fun k => if k = 3 then .error "gone" else .ok 2 }
    let b : ReplayBuffer (PlannedReader String) :=
      after [.mark 4, .read 3, .rewind, .readChar, .mark 4] { inner, capacity := 4 }
    b.pending = ['b'] ∧ ∃ b' b'', Reader.skip 5 b = (.error (.read "gone"), b') ∧
      Rewindable.rewind b' = (.ok (), b'') ∧
      NextUp (ε := ReplayError String) b'' ['b', 'c', 'd'] := by
  intro inner b
  have hmarked : b.marked = some { limit := 4 } := by decide +kernel
  have hfailed : (Reader.skip 5 b).1 = .error (.read "gone") := by decide +kernel
  have hback : ((Rewindable.rewind (Reader.skip 5 b).2).2 : ReplayBuffer _).pending
      = ['b', 'c', 'd'] := by
    decide +kernel
  obtain ⟨⟨c, hrep⟩, -, -, -, hskips⟩ :=
    replayBuffer_failures inner 4 [.mark 4, .read 3, .rewind, .readChar, .mark 4]
  obtain ⟨e, ps, r₁, c', -, -, -, hlt, hmoved, -, -, hrewinds⟩ :=
    hskips c 5 (.read "gone") (Reader.skip 5 b).2 hrep (Prod.ext hfailed rfl)
  refine ⟨by decide +kernel, (Reader.skip 5 b).2, ?_⟩
  cases hrep with
  | unmarked hnone => cases hmarked.symm.trans hnone
  | @marked before handed limit hsome _ =>
    obtain ⟨rfl, hhanded⟩ := ReplayBuffer.Mark.mk.inj (Option.some.inj (hmarked.symm.trans hsome))
    obtain rfl : handed = [] := (congrArg Array.toList hhanded).symm
    have hpos : c'.pos = before.length + (b.pending ++ ps.flatten).length := by
      simpa only [List.append_nil] using hmoved.pos
    have hdelivered : c'.delivered = before ++ b.pending ++ ps.flatten := by
      simpa only [List.append_nil] using hmoved.delivered
    have hnear : c'.pos ≤ before.length + 4 := by
      change (b.pending ++ ps.flatten).length < 5 at hlt
      omega
    obtain ⟨b'', hrewind, hrep'', hnext⟩ := hrewinds before.length 4 rfl hnear
    refine ⟨b'', Prod.ext hfailed rfl, hrewind, ?_⟩
    rw [hrewind] at hback
    have hall : c'.pos = c'.delivered.length := by
      rw [hpos, hdelivered]
      simp only [List.length_append, Nat.add_assoc]
    rw [Cursor.passed, hall, List.take_length, ← hrep''.pending_eq, hback] at hnext
    exact hnext

end CharStream
