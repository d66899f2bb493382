import CharStream.Proofs.Reads
import CharStream.ReplayBuffer

/-!
# The calls of a replay buffer

What each call does to the state, stated once: `read_cases` lists the three ways a read can go, and
`skip_pending` says that a skip within what is pending leaves the inner reader alone.
-/

namespace CharStream.ReplayBuffer

variable {ρ ε : Type}

/-! ## Marks -/

theorem Mark.advance_toArray (limit : Nat) (hs cs : List Char) :
    Mark.advance cs { limit, handed := hs.toArray } =
      if (hs ++ cs).length ≤ limit then some { limit, handed := (hs ++ cs).toArray } else none := by
  simp [Mark.advance]

/-! ## Reads -/

/-- **The three ways of a read.** Something is pending and is handed out; nothing is, and the inner
reader answers; or nothing is, and the inner reader fails. -/
theorem read_cases [Reader ρ ε] {n : Nat} {b b' : ReplayBuffer ρ}
    {x : Except (ReplayError ε) (List Char)} (hn : 0 < n) (h : b.read n = (x, b')) :
    (b.pending ≠ [] ∧ x = .ok (b.pending.take n) ∧
        b' = { b with
          pending := b.pending.drop n
          marked := b.marked.bind (Mark.advance (b.pending.take n)) }) ∨
      (b.pending = [] ∧ ∃ cs inner, Reader.read n b.inner = (.ok cs, inner) ∧ x = .ok cs ∧
        b' = { b with inner, marked := b.marked.bind (Mark.advance cs) }) ∨
      (b.pending = [] ∧ ∃ e inner, Reader.read n b.inner = (.error e, inner) ∧
        x = .error (.read e) ∧ b' = { b with inner }) := by
  rw [read, if_neg (Nat.ne_of_gt hn)] at h
  split at h
  · next hempty =>
    have hp : b.pending = [] := List.isEmpty_iff.1 hempty
    split at h
    · next e inner hr =>
      cases h
      exact .inr (.inr ⟨hp, e, inner, hr, rfl, rfl⟩)
    · next cs inner hr =>
      cases h
      exact .inr (.inl ⟨hp, cs, inner, hr, rfl, rfl⟩)
  · next hne =>
    cases h
    exact .inl ⟨fun hp => hne (List.isEmpty_iff.2 hp), rfl, rfl⟩

theorem read_of_pending [Reader ρ ε] {n : Nat} {b b' : ReplayBuffer ρ}
    {x : Except (ReplayError ε) (List Char)} (hn : 0 < n) (hp : b.pending ≠ [])
    (h : b.read n = (x, b')) :
    x = .ok (b.pending.take n) ∧ b'.inner = b.inner ∧ b'.capacity = b.capacity ∧
      b'.pending = b.pending.drop n := by
  rcases read_cases hn h with ⟨-, hx, rfl⟩ | ⟨hnil, -⟩ | ⟨hnil, -⟩
  · exact ⟨hx, rfl, rfl, rfl⟩
  · exact absurd hnil hp
  · exact absurd hnil hp

/-! ## Skips -/

theorem skipFrom_pending [Reader ρ ε] {n done : Nat} {b : ReplayBuffer ρ} (hd : done ≤ n)
    (hp : n - done ≤ b.pending.length) :
    ∃ b', skipFrom (read (ε := ε)) n done b = (.ok n, b') ∧ b'.inner = b.inner ∧
      b'.capacity = b.capacity ∧ b'.pending = b.pending.drop (n - done) := by
  have hstride {done : Nat} (hlt : done < n) : 0 < min (n - done) skipStride := by
    simp [skipStride]
    omega
  have hne {done : Nat} {b : ReplayBuffer ρ} (hlt : done < n) (hp : n - done ≤ b.pending.length) :
      b.pending ≠ [] := List.ne_nil_of_length_pos (by omega)
  fun_induction skipFrom (read (ε := ε)) n done b with
  | case1 done b hlt e b₁ hr =>
    obtain ⟨hx, -⟩ := read_of_pending (hstride hlt) (hne hlt hp) hr
    cases hx
  | case2 done b hlt b₁ hr =>
    obtain ⟨hx, -⟩ := read_of_pending (hstride hlt) (hne hlt hp) hr
    rcases List.take_eq_nil_iff.1 (Except.ok.inj hx).symm with hzero | hnil
    · exact absurd (hstride hlt) (hzero ▸ Nat.lt_irrefl 0)
    · exact absurd hnil (hne hlt hp)
  | case3 done b hlt c cs b₁ hr ih =>
    obtain ⟨hx, hi, hc, hrest⟩ := read_of_pending (hstride hlt) (hne hlt hp) hr
    have hlen : cs.length + 1 = min (min (n - done) skipStride) b.pending.length := by
      simpa using congrArg List.length (Except.ok.inj hx)
    -- The stride is never longer than what is pending.
    obtain ⟨hstep, hle, hleft⟩ : min (n - done) skipStride = cs.length + 1 ∧
        done + (cs.length + 1) ≤ n ∧ n - done = cs.length + 1 + (n - (done + (cs.length + 1))) := by
      clear ih
      refine ⟨?_, ?_, ?_⟩ <;> omega
    rw [hstep] at hrest
    have hp₁ : n - (done + (cs.length + 1)) ≤ b₁.pending.length := by
      rw [hrest, List.length_drop]
      omega
    obtain ⟨b', hb', hi', hc', hp'⟩ := ih hle hp₁
    refine ⟨b', hb', hi'.trans hi, hc'.trans hc, ?_⟩
    rw [hp', hrest, List.drop_drop, ← hleft]
  | case4 done b hge =>
    obtain rfl : done = n := by omega
    exact ⟨b, rfl, rfl, rfl, by simp⟩

theorem skip_pending [Reader ρ ε] {k : Nat} {b : ReplayBuffer ρ} (hp : k ≤ b.pending.length) :
    ∃ b', Reader.skip k b = (.ok k, b') ∧ b'.inner = b.inner ∧ b'.capacity = b.capacity ∧
      b'.pending = b.pending.drop k :=
  skipFrom_pending (Nat.zero_le k) hp

end CharStream.ReplayBuffer
