import CharStream.Reader

/-!
# Runs of reads

A reader decides for itself how much a read brings. Of several reads in a row one can say what
they brought: `Reads s ps s'` means that reads of positive length, none of which failed, took the
reader from `s` to `s'` and brought the pieces `ps`, in order. An empty piece is a reported end of
the stream; a reader may deliver more after it. `Brings s ps s'` says that this did not happen.

* `readOne_cases` and `skipFrom_ends` — the derived operations are runs of reads, cut short only by
  a reported end or by a failure.
-/

namespace CharStream

variable {σ ρ ε : Type}

instance outcomeDecidableEq {α : Type} [DecidableEq ε] [DecidableEq α] :
    DecidableEq (Except ε α)
  | .ok a, .ok b => decidable_of_iff (a = b) (by simp)
  | .error e, .error f => decidable_of_iff (e = f) (by simp)
  | .ok _, .error _ => isFalse (by simp)
  | .error _, .ok _ => isFalse (by simp)

/-! ## Runs -/

/-- Successful reads of positive length from `s` to `s'` that brought the pieces `ps`. -/
inductive Reads [Reader σ ε] : σ → List (List Char) → σ → Prop
  | refl (s : σ) : Reads s [] s
  | snoc {s s₁ s₂ : σ} {ps : List (List Char)} {n : Nat} {cs : List Char} :
      Reads s ps s₁ → 0 < n → Reader.read n s₁ = (.ok cs, s₂) → Reads s (ps ++ [cs]) s₂

/-- A read of positive length fails with `e` and leaves the state `s'`. -/
def Fails [Reader σ ε] (s : σ) (e : ε) (s' : σ) : Prop :=
  ∃ n, 0 < n ∧ Reader.read n s = (.error e, s')

/-- The last of the pieces is empty: the end of the stream was reported, and nothing came since. -/
def Ended (ps : List (List Char)) : Prop := ps.getLast? = some []

theorem Reads.one [Reader σ ε] {s s' : σ} {n : Nat} {cs : List Char} (hn : 0 < n)
    (h : Reader.read n s = (.ok cs, s')) : Reads s [cs] s' :=
  .snoc (.refl s) hn h

theorem Reads.trans [Reader σ ε] {s s₁ s₂ : σ} {ps qs : List (List Char)} (h : Reads s ps s₁)
    (h' : Reads s₁ qs s₂) : Reads s (ps ++ qs) s₂ := by
  induction h' with
  | refl => simpa using h
  | snoc _ hn hr ih =>
    rw [← List.append_assoc]
    exact .snoc ih hn hr

/-- A run of reads each of which brought something. -/
structure Brings [Reader σ ε] (s : σ) (ps : List (List Char)) (s' : σ) : Prop where
  reads : Reads s ps s'
  nonempty : ∀ p ∈ ps, p ≠ []

theorem Brings.refl [Reader σ ε] (s : σ) : Brings s [] s :=
  ⟨.refl s, fun _ h => absurd h List.not_mem_nil⟩

theorem Brings.snoc [Reader σ ε] {s s₁ s₂ : σ} {ps : List (List Char)} {n : Nat} {c : Char}
    {cs : List Char} (h : Brings s ps s₁) (hn : 0 < n)
    (hr : Reader.read n s₁ = (.ok (c :: cs), s₂)) : Brings s (ps ++ [c :: cs]) s₂ := by
  refine ⟨.snoc h.reads hn hr, ?_⟩
  intro p hp
  rcases List.mem_append.1 hp with hp | hp
  · exact h.nonempty p hp
  · rw [List.mem_singleton.1 hp]
    exact List.cons_ne_nil c cs

theorem Brings.trans [Reader σ ε] {s s₁ s₂ : σ} {ps qs : List (List Char)} (h : Brings s ps s₁)
    (h' : Brings s₁ qs s₂) : Brings s (ps ++ qs) s₂ := by
  refine ⟨h.reads.trans h'.reads, ?_⟩
  intro p hp
  rcases List.mem_append.1 hp with hp | hp
  · exact h.nonempty p hp
  · exact h'.nonempty p hp

/-- Characters that go through a store in two steps, `cs` first and then `ds`, go through it in one:
what is in store and arrives is what leaves and stays. -/
theorem through_append {ahead cs ahead₁ ds ahead₂ : List Char} {ps qs : List (List Char)}
    (h : ahead ++ ps.flatten = cs ++ ahead₁) (h' : ahead₁ ++ qs.flatten = ds ++ ahead₂) :
    ahead ++ (ps ++ qs).flatten = cs ++ ds ++ ahead₂ := by
  calc ahead ++ (ps ++ qs).flatten
      = ahead ++ ps.flatten ++ qs.flatten := by rw [List.flatten_append, List.append_assoc]
    _ = cs ++ (ahead₁ ++ qs.flatten) := by rw [h, List.append_assoc]
    _ = cs ++ ds ++ ahead₂ := by rw [h', List.append_assoc]

@[simp] theorem ended_concat (ps : List (List Char)) : Ended (ps ++ [[]]) := by
  simp [Ended]

theorem not_ended_concat_cons (ps : List (List Char)) (c : Char) (cs : List Char) :
    ¬ Ended (ps ++ [c :: cs]) := by
  simp [Ended]

theorem Ended.append {ps : List (List Char)} (h : Ended ps) (qs : List (List Char)) :
    Ended (qs ++ ps) := by
  unfold Ended at h ⊢
  rw [List.getLast?_append, h]
  rfl

/-! ## The derived operations -/

theorem read_of_readOne [Reader σ ε] {s s' : σ} {next : Option Char}
    (h : readOne Reader.read s = (.ok next, s')) : Reader.read 1 s = (.ok next.toList, s') := by
  unfold readOne at h
  split at h
  · cases h
  · next c s₁ hr =>
    cases h
    exact hr
  · next cs s₁ hne hr =>
    cases h
    have hlen := Reader.length_read_le hr
    match cs with
    | [] => exact hr
    | [c] => exact absurd rfl (hne c)
    | _ :: _ :: _ => simp at hlen

theorem readOne_cases [Reader σ ε] {s s' : σ} {x : Except ε (Option Char)}
    (h : readOne Reader.read s = (x, s')) :
    (∃ c : Option Char, x = .ok c ∧ Reads s [c.toList] s') ∨ ∃ e, x = .error e ∧ Fails s e s' := by
  cases x with
  | ok c => exact .inl ⟨c, rfl, .one Nat.one_pos (read_of_readOne h)⟩
  | error e =>
    refine .inr ⟨e, rfl, 1, Nat.one_pos, ?_⟩
    unfold readOne at h
    split at h
    · next hr =>
      cases h
      exact hr
    · cases h
    · cases h

/-- How a skip of `n` characters ends in the state `s`, where `k` of them are dropped: all of them
are, or a read within the rest brings nothing, or it fails. -/
inductive SkipEnds [Reader σ ε] (n k : Nat) (s : σ) : Except ε Nat → σ → Prop
  | all : k = n → SkipEnds n k s (.ok k) s
  | ended {m : Nat} {s' : σ} :
      0 < m → m ≤ n - k → Reader.read m s = (.ok [], s') → SkipEnds n k s (.ok k) s'
  | failed {m : Nat} {e : ε} {s' : σ} :
      0 < m → m ≤ n - k → Reader.read m s = (.error e, s') → SkipEnds n k s (.error e) s'

/-- **What a skip does** from the point where `done` characters are behind: reads that bring
something drop it, and never more than `n` characters in all. -/
theorem skipFrom_ends [Reader σ ε] {n done : Nat} {s s' : σ} {x : Except ε Nat} (hd : done ≤ n)
    (h : skipFrom Reader.read n done s = (x, s')) :
    ∃ ps s₁, Brings s ps s₁ ∧ done + ps.flatten.length ≤ n ∧
      SkipEnds n (done + ps.flatten.length) s₁ x s' := by
  have hstride {done : Nat} (hlt : done < n) :
      0 < min (n - done) skipStride ∧ min (n - done) skipStride ≤ n - done := by
    simp only [skipStride]
    omega
  fun_induction skipFrom Reader.read n done s with
  | case1 done s hlt e s₁ hr =>
    cases h
    exact ⟨[], s, .refl s, hd, .failed (hstride hlt).1 (hstride hlt).2 hr⟩
  | case2 done s hlt s₁ hr =>
    cases h
    exact ⟨[], s, .refl s, hd, .ended (hstride hlt).1 (hstride hlt).2 hr⟩
  | case3 done s hlt c cs s₁ hr ih =>
    have hlen := Reader.length_read_le hr
    rw [List.length_cons] at hlen
    obtain ⟨hpos, hle⟩ := hstride hlt
    obtain ⟨ps, s₂, hps, hfits, hends⟩ := ih (by omega) h
    have hone : Brings s [c :: cs] s₁ := .snoc (.refl s) hpos hr
    have hcount : done + ([c :: cs] ++ ps).flatten.length
        = done + (cs.length + 1) + ps.flatten.length := by
      rw [List.flatten_append, List.flatten_singleton, List.length_append, List.length_cons,
        ← Nat.add_assoc]
    refine ⟨[c :: cs] ++ ps, s₂, hone.trans hps, ?_, ?_⟩
    · rwa [hcount]
    · rwa [hcount]
  | case4 done s hge =>
    cases h
    exact ⟨[], _, .refl _, hd, .all (Nat.le_antisymm hd (Nat.le_of_not_lt hge))⟩

theorem skipBy_ends [Reader σ ε] {n : Nat} {s s' : σ} {x : Except ε Nat}
    (h : skipBy Reader.read n s = (x, s')) :
    ∃ ps s₁, Brings s ps s₁ ∧ ps.flatten.length ≤ n ∧ SkipEnds n ps.flatten.length s₁ x s' := by
  simpa only [Nat.zero_add] using skipFrom_ends (Nat.zero_le n) h

/-- The same with the read that reports the end among the reads: a skip ends when all `n` characters
are behind, when the end of the stream is reported, or when a read fails. -/
theorem skipBy_cases [Reader σ ε] {n : Nat} {s s' : σ} {x : Except ε Nat}
    (h : skipBy Reader.read n s = (x, s')) :
    (∃ ps, x = .ok ps.flatten.length ∧ Reads s ps s' ∧ ps.flatten.length ≤ n ∧
        (ps.flatten.length < n → Ended ps)) ∨
      ∃ e ps s₁, x = .error e ∧ Reads s ps s₁ ∧ Fails s₁ e s' ∧ ps.flatten.length < n := by
  obtain ⟨ps, s₁, hps, hle, hends⟩ := skipBy_ends h
  cases hends with
  | all hall => exact .inl ⟨ps, rfl, hps.reads, hle, fun hlt => absurd hall (Nat.ne_of_lt hlt)⟩
  | ended hpos hfits hr =>
    refine .inl ⟨ps ++ [[]], by simp, .snoc hps.reads hpos hr, by simpa using hle, ?_⟩
    exact fun _ => ended_concat ps
  | @failed m e _ hpos hfits hr =>
    exact .inr ⟨e, ps, s₁, rfl, hps.reads, ⟨m, hpos, hr⟩, by omega⟩

theorem readOne_keeps {P : σ → Prop} {read : Nat → σ → Except ε (List Char) × σ}
    (h : ∀ n s, P s → P (read n s).2) {s : σ} (hs : P s) : P (readOne read s).2 := by
  have hread := h 1 s hs
  unfold readOne
  split
  · next hr => rwa [hr] at hread
  · next hr => rwa [hr] at hread
  · next hr => rwa [hr] at hread

theorem skipFrom_keeps {P : σ → Prop} {read : Nat → σ → Except ε (List Char) × σ}
    (h : ∀ n s, P s → P (read n s).2) (n done : Nat) {s : σ} (hs : P s) :
    P (skipFrom read n done s).2 := by
  fun_induction skipFrom read n done s with
  | case1 done s _ e s₁ hr =>
    have hread := h (min (n - done) skipStride) s hs
    rwa [hr] at hread
  | case2 done s _ s₁ hr =>
    have hread := h (min (n - done) skipStride) s hs
    rwa [hr] at hread
  | case3 done s _ c cs s₁ hr ih =>
    have hread := h (min (n - done) skipStride) s hs
    rw [hr] at hread
    exact ih hread
  | case4 => exact hs

end CharStream
