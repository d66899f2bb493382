import CharStream.Proofs.DecodedText
import CharStream.Proofs.Lookahead
import CharStream.Proofs.OwnEncodings

/-!
# Every loop over lines ends

Reading a line moves the source forwards, back to a mark, and forwards again. What it has gained in
the end is counted here by the characters *outstanding*: those that are kept for another reading and
those that the reader below may still bring.

**Characters to come.** A reader decides how much a read brings, and may fail on the way. `ToCome`
counts what any reads at all can bring, past ends that are reported and past failures. Where this is
bounded there is such a number, and what a read brings is taken off it.

**Counting.** `Counting` is what a source must respect: a read takes off what it brings, a mark
remembers the number, and a rewind does not go beyond the number remembered. A replay buffer
respects it whatever its capacity and the limit of its mark, since a mark that is lost is no mark to
go back to.

**A line.** The last mark of a search comes after the buffers that it has spilled. So the rewind
takes nothing of these back, and the skip takes off the rest of the line; together that is
something, or there would have been no line (`Counting.line`). Nor can a search spill for ever
(`Counting.answers`).

**A byte stream.** What a decoded reader has to come is what it has in store and what is due of its
bytes (`Stores.toCome`). A read takes characters off, or finds the end, or fails; then the script
has a fault less, and nothing of the text is lost.

* `scan_calls` — one buffer takes no more calls than it has places, and one.
* `refillIn_eq` — fetching takes no more reads than the script has bytes and items, and one.
* `lines_end` — calls answer, lines make the number smaller, and a loop over lines ends.
-/

namespace CharStream

open Line (Spilled Scanned)

variable {σ ρ ε ε' : Type}

/-! ## Characters to come -/

/-- Reads of positive length from `r` to `r'`, some of which may have failed, brought `cs`. -/
inductive Fetches [Reader ρ ε] : ρ → List Char → ρ → Prop
  | refl (r : ρ) : Fetches r [] r
  | read {r r₁ r₂ : ρ} {n : Nat} {cs ds : List Char} :
      0 < n → Reader.read n r = (.ok cs, r₁) → Fetches r₁ ds r₂ → Fetches r (cs ++ ds) r₂
  | failed {r r₁ r₂ : ρ} {e : ε} {ds : List Char} :
      Fails r e r₁ → Fetches r₁ ds r₂ → Fetches r ds r₂

/-- Reads can bring `k` characters, and no more. -/
structure ToCome [Reader ρ ε] (r : ρ) (k : Nat) : Prop where
  attained : ∃ cs r', Fetches r cs r' ∧ cs.length = k
  bound {cs : List Char} {r' : ρ} : Fetches r cs r' → cs.length ≤ k

section ToCome

variable [Reader ρ ε] {r r' : ρ} {cs ds : List Char} {k : Nat}

theorem Fetches.trans {r'' : ρ} (h : Fetches r cs r') (h' : Fetches r' ds r'') :
    Fetches r (cs ++ ds) r'' := by
  induction h with
  | refl => exact h'
  | read hn hr _ ih =>
    rw [List.append_assoc]
    exact .read hn hr (ih h')
  | failed hf _ ih => exact .failed hf (ih h')

theorem exists_toCome (h : ∀ cs r', Fetches r cs r' → cs.length ≤ k) : ∃ j ≤ k, ToCome r j := by
  induction k with
  | zero => exact ⟨0, Nat.le_refl 0, ⟨[], r, .refl r, rfl⟩, h _ _⟩
  | succ k ih =>
    by_cases hall : ∃ cs r', Fetches r cs r' ∧ cs.length = k + 1
    · exact ⟨k + 1, Nat.le_refl _, hall, h _ _⟩
    · obtain ⟨j, hj, htocome⟩ := ih (by
        intro cs r' hcs
        have hle := h cs r' hcs
        have hne : cs.length ≠ k + 1 := fun heq => hall ⟨cs, r', hcs, heq⟩
        omega)
      exact ⟨j, Nat.le_succ_of_le hj, htocome⟩

theorem ToCome.fetched (h : ToCome r k) (hcs : Fetches r cs r') :
    ∃ k', ToCome r' k' ∧ cs.length + k' ≤ k := by
  have hle := h.bound hcs
  have hrest (ds : List Char) (r'' : ρ) (hds : Fetches r' ds r'') : ds.length ≤ k - cs.length := by
    have hboth := h.bound (hcs.trans hds)
    rw [List.length_append] at hboth
    omega
  obtain ⟨k', hk', htocome⟩ := exists_toCome hrest
  exact ⟨k', htocome, by omega⟩

end ToCome

/-! ## Counting -/

/-- A read takes off what it brings. `At s k back` says that `k` characters are outstanding, and at
most `back` after a rewind. -/
structure CountsReads [Reader σ ε] (At : σ → Nat → Nat → Prop) : Prop where
  read {s s' : σ} {k back n : Nat} {cs : List Char} : At s k back → 0 < n →
    Reader.read n s = (.ok cs, s') → ∃ k', At s' k' back ∧ cs.length + k' ≤ k

theorem CountsReads.reads [Reader σ ε] {At : σ → Nat → Nat → Prop} (h : CountsReads At) {s s' : σ}
    {k back : Nat} {ps : List (List Char)} (hat : At s k back) (hps : Reads s ps s') :
    ∃ k', At s' k' back ∧ ps.flatten.length + k' ≤ k := by
  induction hps with
  | refl => exact ⟨k, hat, by simp⟩
  | snoc _ hn hr ih =>
    obtain ⟨k₁, hat₁, hle₁⟩ := ih
    obtain ⟨k₂, hat₂, hle₂⟩ := h.read hat₁ hn hr
    refine ⟨k₂, hat₂, ?_⟩
    rw [List.flatten_append, List.flatten_singleton, List.length_append]
    omega

/-- What a source must respect. -/
structure Counting [Rewindable σ ε] (At : σ → Nat → Nat → Prop) : Prop extends CountsReads At where
  readChar : ∀ s : σ, Reader.readChar s = readOne Reader.read s
  skip {s s' : σ} {k back n j : Nat} : At s k back → Reader.skip n s = (.ok j, s') →
    ∃ k', At s' k' back ∧ j + k' ≤ k
  mark {s s' : σ} {k back n : Nat} : At s k back → Rewindable.mark n s = (.ok (), s') →
    ∃ k' ≤ k, At s' k' k'
  rewind {s s' : σ} {k back : Nat} : At s k back → Rewindable.rewind s = (.ok (), s') →
    ∃ k' ≤ back, At s' k' back

section Counting

variable [Rewindable σ ε] {At : σ → Nat → Nat → Prop} (h : Counting At) {s s' : σ} {k back : Nat}
include h

theorem Counting.scanned {m : Nat} {line : List Char} {e : Line.ScanEnd} (hat : At s k back)
    (hs : Scanned m s line (.ok e) s') : ∃ k', At s' k' back ∧ line.length + k' ≤ k := by
  cases hs with
  | found hps hflat =>
    obtain ⟨k', hat', hle⟩ := h.reads hat hps.reads
    refine ⟨k', hat', ?_⟩
    rw [hflat, List.length_append, List.length_append] at hle
    omega
  | closing hps hflat _ hr =>
    obtain ⟨k₁, hat₁, hle₁⟩ := h.reads hat hps.reads
    obtain ⟨k₂, hat₂, hle₂⟩ := h.read hat₁ Nat.one_pos (read_of_readOne (h.readChar _ ▸ hr))
    refine ⟨k₂, hat₂, ?_⟩
    rw [hflat, List.length_append] at hle₁
    omega
  | exhausted hps hflat hlt hr =>
    obtain ⟨k₁, hat₁, hle₁⟩ := h.reads hat hps.reads
    obtain ⟨k₂, hat₂, hle₂⟩ := h.read hat₁ (Nat.sub_pos_of_lt hlt) hr
    refine ⟨k₂, hat₂, ?_⟩
    rw [hflat] at hle₁
    omega
  | full hps hflat =>
    obtain ⟨k', hat', hle⟩ := h.reads hat hps.reads
    rw [hflat] at hle
    exact ⟨k', hat', hle⟩

theorem Counting.spilled {o : LineOptions} {cs : List Char} (hat : At s k back)
    (hs : Spilled o s cs s') : ∃ k' back', At s' k' back' ∧ cs.length + k' ≤ k := by
  induction hs generalizing k back with
  | nil => exact ⟨k, back, hat, by simp⟩
  | cons hmark _ hfull _ ih =>
    obtain ⟨k₁, hle₁, hat₁⟩ := h.mark hat hmark
    obtain ⟨k₂, hat₂, hle₂⟩ := h.scanned hat₁ hfull
    obtain ⟨k₃, back', hat₃, hle₃⟩ := ih hat₂
    refine ⟨k₃, back', hat₃, ?_⟩
    rw [List.length_append]
    omega

variable {w w' : LineScanner σ} {fuel : Nat}

/-- **A line makes the number smaller**, by its length at least. -/
theorem Counting.line {line : String} (hat : At w.source k back)
    (hline : w.nextLine fuel = some (.ok (some line), w')) :
    ∃ k' back', At w'.source k' back' ∧ k' < k ∧ line.length + k' ≤ k := by
  obtain ⟨-, cs, l, e, taken, s₁, s₂, s₃, s₄, hspill, hmark, hs, hrewind, hskip, rfl, hle, hpos⟩ :=
    Line.nextLine_line hline
  obtain ⟨k₁, back₁, hat₁, hle₁⟩ := h.spilled hat hspill
  obtain ⟨k₂, hle₂, hat₂⟩ := h.mark hat₁ hmark
  obtain ⟨k₃, hat₃, -⟩ := h.scanned hat₂ hs
  -- Back at the last mark, what was spilled before it stays taken off.
  obtain ⟨k₄, hle₄, hat₄⟩ := h.rewind hat₃ hrewind
  obtain ⟨k₅, hat₅, hle₅⟩ := h.skip hat₄ hskip
  refine ⟨k₅, k₂, hat₅, by omega, ?_⟩
  rw [String.length_ofList, List.length_append]
  omega

/-- A call that does not answer has spilled as many characters as its fuel allowed. -/
theorem Counting.answers (hat : At w.source k back) (hlt : k < fuel * w.options.maxLineLength) :
    ∃ out, w.nextLine fuel = some out := by
  cases hcall : w.nextLine fuel with
  | some out => exact ⟨out, rfl⟩
  | none =>
    obtain ⟨cs, s, hspill, hlength⟩ := Line.find_none (find_eq_none hcall)
    obtain ⟨k', -, -, hle⟩ := h.spilled hat hspill
    omega

end Counting

/-! ## The loop over lines -/

/-- Reads lines until there is none or a call fails, by at most `rounds` calls: the lines, and the
failure if there was one. `none` says that this was not enough, or the fuel of a call. -/
def LineScanner.readAll [Rewindable σ ε] (fuel : Nat) :
    Nat → LineScanner σ → Option (List String × Option (LineError ε) × LineScanner σ)
  | 0, _ => none
  | rounds + 1, w =>
    match w.nextLine fuel with
    | none => none
    | some (.error e, w) => some ([], some e, w)
    | some (.ok none, w) => some ([], none, w)
    | some (.ok (some line), w) =>
      (readAll fuel rounds w).map fun (lines, e, w) => (line :: lines, e, w)

theorem LineScanner.readAll_more [Rewindable σ ε] {w : LineScanner σ} {fuel rounds : Nat}
    (more more' : Nat) {out : List String × Option (LineError ε) × LineScanner σ}
    (h : w.readAll fuel rounds = some out) :
    w.readAll (fuel + more) (rounds + more') = some out := by
  induction rounds generalizing w out with
  | zero => cases h
  | succ rounds ih =>
    rw [readAll] at h
    rw [Nat.add_right_comm, readAll]
    cases hcall : w.nextLine fuel with
    | none =>
      rw [hcall] at h
      cases h
    | some answer =>
      rw [hcall] at h
      rw [Line.nextLine_more more hcall]
      match answer with
      | (.error e, w') => exact h
      | (.ok none, w') => exact h
      | (.ok (some line), w') =>
        obtain ⟨rest, hrest, hout⟩ := Option.map_eq_some_iff.1 h
        dsimp only
        rw [ih hrest]
        exact congrArg some hout

/-- What `k` characters outstanding mean for a scanner, where `Outstanding` counts those of its
source. -/
structure Advances [Rewindable σ ε] (Outstanding : σ → Nat → Prop) (w : LineScanner σ) (k : Nat) :
    Prop where
  /-- A call answers, and more fuel makes no difference. -/
  answers : ∃ out, ∀ fuel, k < fuel * w.options.maxLineLength → w.nextLine fuel = some out
  /-- A line makes the number smaller, by its length at least. -/
  decreases : ∀ fuel line w', w.nextLine fuel = some (.ok (some line), w') →
    ∃ k', Outstanding w'.source k' ∧ k' < k ∧ line.length + k' ≤ k
  /-- A loop over the lines ends, after no more lines than characters. -/
  ends : ∃ lines e w', lines.length ≤ k ∧
    ∀ fuel rounds, k < fuel → k < rounds → w.readAll fuel rounds = some (lines, e, w')

theorem Advances.mono [Rewindable σ ε] {Outstanding Outstanding' : σ → Nat → Prop}
    {w : LineScanner σ} {k : Nat} (h : Advances Outstanding w k)
    (himp : ∀ s k, Outstanding s k → Outstanding' s k) : Advances Outstanding' w k where
  answers := h.answers
  decreases := by
    intro fuel line w' hline
    obtain ⟨k', hout, hle⟩ := h.decreases fuel line w' hline
    exact ⟨k', himp _ _ hout, hle⟩
  ends := h.ends

theorem LineOptions.lt_mul {k fuel : Nat} (o : LineOptions) (h : k < fuel) :
    k < fuel * o.maxLineLength :=
  Nat.lt_of_lt_of_le h (Nat.le_mul_of_pos_right fuel o.positive)

section Counting

variable [Rewindable σ ε] {At : σ → Nat → Nat → Prop} (h : Counting At)
include h

/-- The induction is over the calls: each line makes the number smaller, and a call that brings none
is the last. -/
theorem Counting.readAll {k back rounds : Nat} (fuel : Nat) {w : LineScanner σ}
    (hat : At w.source k back) (hfuel : k < fuel) (hrounds : k < rounds) :
    ∃ lines e w', lines.length ≤ k ∧ w.readAll fuel rounds = some (lines, e, w') := by
  induction rounds generalizing k back w with
  | zero => exact absurd hrounds (Nat.not_lt_zero k)
  | succ rounds ih =>
    obtain ⟨answer, hcall⟩ := h.answers hat (w.options.lt_mul hfuel)
    rw [LineScanner.readAll, hcall]
    match answer with
    | (.error e, w') => exact ⟨[], some e, w', Nat.zero_le k, rfl⟩
    | (.ok none, w') => exact ⟨[], none, w', Nat.zero_le k, rfl⟩
    | (.ok (some line), w') =>
      obtain ⟨k', back', hat', hlt, -⟩ := h.line hat hcall
      obtain ⟨lines, e, w'', hle, hrest⟩ := ih hat' (by omega) (by omega)
      refine ⟨line :: lines, e, w'', ?_, by simp only [hrest, Option.map_some]⟩
      rw [List.length_cons]
      omega

/-- **A source that counts advances.** -/
theorem Counting.advances {k back : Nat} {w : LineScanner σ} (hat : At w.source k back) :
    Advances (fun s k => ∃ back, At s k back) w k where
  answers := by
    obtain ⟨out, hcall⟩ := h.answers hat (w.options.lt_mul (Nat.lt_succ_self k))
    refine ⟨out, ?_⟩
    intro fuel hfuel
    obtain ⟨out', hcall'⟩ := h.answers hat hfuel
    have hboth := Line.nextLine_more (k + 1) hcall'
    rw [Nat.add_comm, Line.nextLine_more fuel hcall] at hboth
    rw [hcall', hboth]
  decreases := by
    intro fuel line w' hline
    obtain ⟨k', back', hat', hlt, hle⟩ := h.line hat hline
    exact ⟨k', ⟨back', hat'⟩, hlt, hle⟩
  ends := by
    obtain ⟨lines, e, w', hle, hloop⟩ :=
      h.readAll (k + 1) hat (Nat.lt_succ_self k) (Nat.lt_succ_self k)
    refine ⟨lines, e, w', hle, ?_⟩
    intro fuel rounds hfuel hrounds
    have hmore := LineScanner.readAll_more (fuel - (k + 1)) (rounds - (k + 1)) hloop
    rwa [Nat.add_sub_cancel' hfuel, Nat.add_sub_cancel' hrounds] at hmore

end Counting

/-! ## Replay buffers and texts -/

namespace ReplayBuffer

/-- The characters outstanding: those pending, and those still to come. -/
def Outstanding [Reader ρ ε] (b : ReplayBuffer ρ) (k : Nat) : Prop :=
  ∃ j, ToCome b.inner j ∧ k = b.pending.length + j

/-- A rewind adds what was handed out since the mark, if there is a mark. -/
def Counts [Reader ρ ε] (b : ReplayBuffer ρ) (k back : Nat) : Prop :=
  b.Outstanding k ∧ ∀ m, b.marked = some m → m.handed.size + k ≤ back

theorem counts_of_outstanding [Reader ρ ε] {b : ReplayBuffer ρ} {k : Nat} (h : b.Outstanding k) :
    ∃ back, b.Counts k back := by
  cases hmarked : b.marked with
  | none => exact ⟨0, h, by simp [hmarked]⟩
  | some m => exact ⟨m.handed.size + k, h, by simp [hmarked]⟩

theorem size_advance {m m' : Mark} {cs : List Char} (h : m.advance cs = some m') :
    m'.handed.size = m.handed.size + cs.length := by
  unfold Mark.advance at h
  dsimp only at h
  split at h
  · cases h
    simp [← Array.length_toList]
  · cases h

theorem counts_handed [Reader ρ ε] {b b' : ReplayBuffer ρ} {k k' back : Nat} {cs : List Char}
    (h : b.Counts k back) (hmarked : b'.marked = b.marked.bind (Mark.advance cs))
    (hk' : b'.Outstanding k') (hle : cs.length + k' ≤ k) : b'.Counts k' back := by
  refine ⟨hk', ?_⟩
  intro m' hm'
  rw [hmarked] at hm'
  obtain ⟨m, hm, hadvance⟩ := Option.bind_eq_some_iff.1 hm'
  have hback := h.2 m hm
  rw [size_advance hadvance]
  omega

theorem countsReads [Reader ρ ε] : CountsReads (Counts : ReplayBuffer ρ → Nat → Nat → Prop) where
  read {b b' k back n cs} h hn hr := by
    obtain ⟨j, htocome, rfl⟩ := h.1
    rcases read_cases hn hr with
      ⟨-, hcs, rfl⟩ | ⟨hnil, ds, inner, hinner, hcs, rfl⟩ | ⟨-, e, inner, -, hx, -⟩
    · obtain rfl := Except.ok.inj hcs
      have hlength : (b.pending.take n).length + (b.pending.drop n).length = b.pending.length := by
        rw [← List.length_append, List.take_append_drop]
      have hle : (b.pending.take n).length + ((b.pending.drop n).length + j)
          ≤ b.pending.length + j := by omega
      exact ⟨_, counts_handed h rfl ⟨j, htocome, rfl⟩ hle, hle⟩
    · obtain rfl := Except.ok.inj hcs
      obtain ⟨j', htocome', hle⟩ := htocome.fetched (.read hn hinner (.refl inner))
      rw [List.append_nil] at hle
      have hle' : cs.length + (b.pending.length + j') ≤ b.pending.length + j := by omega
      exact ⟨_, counts_handed h rfl ⟨j', htocome', rfl⟩ hle', hle'⟩
    · cases hx

theorem counting [Reader ρ ε] : Counting (Counts : ReplayBuffer ρ → Nat → Nat → Prop) where
  toCountsReads := countsReads
  readChar _ := rfl
  skip {b b' k back n j} h hskip := by
    rcases skipBy_cases hskip with ⟨ps, hx, hps, -⟩ | ⟨e, ps, b₁, hx, -⟩
    · obtain rfl := Except.ok.inj hx
      exact countsReads.reads h hps
    · cases hx
  mark {b b' k back n} h hmark := by
    have hmark : b.mark n = (.ok (), b') := hmark
    rw [ReplayBuffer.mark] at hmark
    split at hmark
    · cases hmark
    · cases hmark
      refine ⟨k, Nat.le_refl k, h.1, ?_⟩
      rintro m ⟨⟩
      exact Nat.le_of_eq (Nat.zero_add k)
  rewind {b b' k back} h hrewind := by
    have hrewind : b.rewind = (.ok (), b') := hrewind
    obtain ⟨⟨j, htocome, rfl⟩, hback⟩ := h
    rw [ReplayBuffer.rewind] at hrewind
    split at hrewind
    · cases hrewind
    · next m hmarked =>
      cases hrewind
      have hle := hback m hmarked
      have hlength : m.handed.size + (b.pending.length + j)
          = (m.handed.toList ++ b.pending).length + j := by
        rw [List.length_append, Array.length_toList, Nat.add_assoc]
      refine ⟨_, hle, ⟨j, htocome, hlength⟩, ?_⟩
      rintro m' ⟨⟩
      exact Nat.le_trans (Nat.le_of_eq (Nat.zero_add _)) hle

theorem advances [Reader ρ ε] {w : LineScanner (ReplayBuffer ρ)} {k : Nat}
    (h : w.source.Outstanding k) : Advances Outstanding w k := by
  obtain ⟨back, hcounts⟩ := counts_of_outstanding h
  exact (counting.advances hcounts).mono fun _ _ h => h.choose_spec.1

end ReplayBuffer

namespace TextSource

/-- The characters outstanding: those that remain of the text. -/
def Outstanding (t : TextSource) (k : Nat) : Prop := k = t.remaining

/-- A rewind goes back to the mark, or to the start of the text. -/
def Counts (t : TextSource) (k back : Nat) : Prop :=
  t.Outstanding k ∧ t.text.size - t.marked ≤ back

theorem Counts.moved {t t' : TextSource} {k back n : Nat} (h : t.Counts k back)
    (hrest : t'.rest = t.rest.drop n) (htext : t'.text = t.text) (hmarked : t'.marked = t.marked) :
    ∃ k', t'.Counts k' back ∧ min n k + k' = k := by
  obtain ⟨rfl, hback⟩ := h
  refine ⟨t'.remaining, ⟨rfl, by rwa [htext, hmarked]⟩, ?_⟩
  rw [← length_rest, ← length_rest, hrest, List.length_drop]
  omega

theorem counting : Counting Counts where
  read {t t' k back n cs} h _ hr := by
    obtain ⟨hcs, hrest, -⟩ := rest_of_read hr
    obtain ⟨-, rfl⟩ := Prod.mk.inj hr
    obtain ⟨k', hcounts, heq⟩ := h.moved hrest rfl rfl
    obtain ⟨rfl, -⟩ := h
    refine ⟨k', hcounts, Nat.le_of_eq ?_⟩
    rwa [hcs, List.length_take, length_rest]
  readChar _ := rfl
  skip {t t' k back n j} h hskip := by
    obtain ⟨hj, rfl⟩ := Prod.mk.inj hskip
    obtain rfl := Except.ok.inj hj
    obtain ⟨k', hcounts, heq⟩ := h.moved (t.rest_skip n) rfl rfl
    obtain ⟨rfl, -⟩ := h
    exact ⟨k', hcounts, Nat.le_of_eq heq⟩
  mark {t t' k back n} h hmark := by
    obtain ⟨rfl, hback⟩ := h
    cases hmark
    exact ⟨_, Nat.le_refl _, rfl, Nat.le_refl _⟩
  rewind {t t' k back} h hrewind := by
    obtain ⟨rfl, hback⟩ := h
    cases hrewind
    exact ⟨_, hback, rfl, hback⟩

theorem advances (w : LineScanner TextSource) : Advances Outstanding w w.source.remaining := by
  have hcounts : w.source.Counts w.source.remaining (w.source.text.size - w.source.marked) :=
    ⟨rfl, Nat.le_refl _⟩
  exact (counting.advances hcounts).mono fun _ _ h => h.choose_spec.1

end TextSource

/-! ## One buffer -/

theorem Traced.length_note {α : Type} {call : Call} {answer : α → Answer ε}
    {op : σ → Except ε α × σ} {s s' : Traced σ ε} {x : Except ε α}
    (h : note call answer op s = (x, s')) : s'.log.length = s.log.length + 1 := by
  rw [(note_eq h).2, List.length_append, List.length_singleton]

/-- **One buffer** takes no more calls of its source than it has places left, and one for the
character behind a carriage return. -/
theorem scan_calls [Rewindable σ ε] (m pos : Nat) (buf : Array Char) (s : Traced σ ε) :
    (Line.scan m pos buf s).2.2.log.length ≤ s.log.length + (m - pos) + 1 := by
  fun_induction Line.scan m pos buf s with
  | case1 pos buf s _ e s' hr | case2 pos buf s _ s' hr =>
    have hread := Traced.length_note hr
    dsimp only
    omega
  | case3 pos buf s _ c cs s' hr buf' _ ih =>
    have hread := Traced.length_note hr
    omega
  | case4 pos buf s _ c cs s₁ hr buf' _ e s' hc
  | case5 pos buf s _ c cs s₁ hr buf' _ _ next s' hc =>
    have hread := Traced.length_note hr
    have hnext := Traced.length_note hc
    dsimp only
    omega
  | case6 pos buf s _ c cs s' hr | case7 pos buf s _ c cs s' hr =>
    have hread := Traced.length_note hr
    dsimp only
    omega
  | case8 pos buf s =>
    dsimp only
    omega

/-! ## Fetching -/

namespace DecodedReader

variable {L : EncodingLibrary} {r r' : DecodedReader L} {pending cs : List Char}

/-- Fetching with at most `rounds` reads of the byte stream; `none` says that these were not
enough. -/
def refillIn (rounds : Nat) (r : DecodedReader L) :
    Option (Except ByteFault Bool × DecodedReader L) :=
  if r.finished then some (.ok false, r)
  else
    match rounds with
    | 0 => none
    | rounds + 1 =>
      match r.script.read chunkSize with
      | (.error f, script) =>
        if f.kind = .interrupted then refillIn rounds { r with script }
        else some (.error f, { r with script })
      | (.ok bytes, script) =>
        match decodeChunk bytes { r with script } with
        | (.error f, r) => some (.error f, r)
        | (.ok (), r) => if r.text.isEmpty then refillIn rounds r else some (.ok true, r)

theorem refillIn_of_error {f : ByteFault} {script : ByteScript} (hfin : ¬ r.finished)
    (hread : r.script.read chunkSize = (.error f, script)) (rounds : Nat) :
    r.refillIn (rounds + 1) = if f.kind = .interrupted then refillIn rounds { r with script }
      else some (.error f, { r with script }) := by
  rw [refillIn, if_neg hfin, hread]

theorem refillIn_of_chunk {bytes : List UInt8} {script : ByteScript} {x : Except ByteFault Unit}
    {r₁ : DecodedReader L} (hfin : ¬ r.finished)
    (hread : r.script.read chunkSize = (.ok bytes, script))
    (hchunk : decodeChunk bytes { r with script } = (x, r₁)) (rounds : Nat) :
    r.refillIn (rounds + 1) = match x with
      | .error f => some (.error f, r₁)
      | .ok () => if r₁.text.isEmpty then refillIn rounds r₁ else some (.ok true, r₁) := by
  rw [refillIn, if_neg hfin, hread]
  cases x with
  | error f =>
    dsimp only
    rw [hchunk]
  | ok u =>
    dsimp only
    rw [hchunk]

theorem refillIn_of_finished (hfin : r.finished) (rounds : Nat) :
    r.refillIn rounds = some (.ok false, r) := by
  rw [refillIn.eq_def, if_pos hfin]

/-- **Fetching ends**: each read that makes it go on leaves less of the script, or is the last. -/
theorem refillIn_eq {rounds : Nat} (h : r.script.size < rounds) :
    r.refillIn rounds = some r.refill := by
  induction rounds generalizing r with
  | zero => exact absurd h (Nat.not_lt_zero _)
  | succ rounds ih =>
    fun_cases refill r with
    | case1 hfin => exact refillIn_of_finished hfin _
    | case2 hfin f script hread hint =>
      have hsize := ByteScript.size_read_error hread
      rw [refillIn_of_error hfin hread, if_pos hint]
      exact ih (Nat.lt_of_lt_of_le hsize (Nat.le_of_lt_succ h))
    | case3 hfin f script hread hint => rw [refillIn_of_error hfin hread, if_neg hint]
    | case4 hfin bytes script hread f r₁ hchunk => exact refillIn_of_chunk hfin hread hchunk _
    | case5 hfin bytes script hread r₁ hchunk hempty =>
      refine (refillIn_of_chunk hfin hread hchunk _).trans ((if_pos hempty).trans ?_)
      obtain ⟨hscript, hend⟩ := decodeChunk_ok hchunk
      cases bytes with
      | nil => rw [refillIn_of_finished hend, refill_of_finished hend]
      | cons b bs =>
        have hsize := ByteScript.size_read_cons hread
        refine ih (Nat.lt_of_lt_of_le ?_ (Nat.le_of_lt_succ h))
        rw [hscript]
        exact hsize
    | case6 hfin bytes script hread r₁ hchunk hne =>
      exact (refillIn_of_chunk hfin hread hchunk _).trans (if_neg hne)

section Laws

variable (hL : L.Streams) (hroom : L.Suffices chunkSize)

include hroom in
/-- A fetch that fails has used up a fault. -/
theorem size_refill_error {f : ByteFault} (h : r.refill = (.error f, r')) :
    r'.script.size < r.script.size := by
  fun_induction refill r with
  | case1 => cases h
  | case2 r hfin f script hread hint ih =>
    exact Nat.lt_trans (ih h) (ByteScript.size_read_error hread)
  | case3 r hfin f script hread hint =>
    cases h
    exact ByteScript.size_read_error hread
  | case4 r hfin bytes script hread f r₁ hchunk =>
    rw [decodeChunk_eq hroom (ByteScript.length_read_le hread)] at hchunk
    cases hchunk
  | case5 r hfin bytes script hread r₁ hchunk hempty ih =>
    obtain ⟨hscript, hend⟩ := decodeChunk_ok hchunk
    cases bytes with
    | nil =>
      rw [refill_of_finished hend] at h
      cases h
    | cons b bs =>
      refine Nat.lt_trans (ih h) ?_
      rw [hscript]
      exact ByteScript.size_read_cons hread
  | case6 => cases h

include hroom in
theorem size_read_error {f : ByteFault} {n : Nat} (h : r.read n = (.error f, r')) :
    r'.script.size < r.script.size := by
  rw [DecodedReader.read] at h
  split at h
  · cases h
  · split at h
    · cases h
    · split at h
      · next hrefill =>
        cases h
        exact size_refill_error hroom hrefill
      · cases h
      · cases h

include hL hroom

/-- Reads take what is pending and due from its front, and faults take nothing of it. -/
theorem Stores.fetched (hr : r.Stores pending) (h : Fetches r cs r') :
    ∃ pending', r'.Stores pending' ∧ pending ++ r.due = cs ++ (pending' ++ r'.due) := by
  induction h generalizing pending with
  | refl r => exact ⟨pending, hr, rfl⟩
  | @read r r₁ r₂ n cs ds hn hread _ ih =>
    cases read_cases hL hroom hn hr hread with
    | @chars c cs rest _ hstores _ hdue _ =>
      obtain ⟨pending', hstores', hrest⟩ := ih hstores
      refine ⟨pending', hstores', ?_⟩
      rw [hdue, hrest, List.append_assoc]
    | ended hpending hlater hstop hstores hlater' hstop' =>
      obtain ⟨pending', hstores', hrest⟩ := ih hstores
      refine ⟨pending', hstores', ?_⟩
      rw [due_eq_later hstop', hlater'] at hrest
      rw [hpending, due_eq_later hstop, hlater]
      exact hrest
  | failed hf _ ih =>
    obtain ⟨n, hn, hread⟩ := hf
    cases read_cases hL hroom hn hr hread with
    | failed hpending _ _ hstores hdue =>
      obtain ⟨pending', hstores', hrest⟩ := ih hstores
      refine ⟨pending', hstores', ?_⟩
      rw [hpending, ← hdue]
      exact hrest

/-- All that is pending and due can be brought: a read shortens it, or finds its end, or fails and
leaves less of the script. -/
theorem Stores.attained {pending : List Char} {r : DecodedReader L} (hr : r.Stores pending) :
    ∃ r', Fetches r (pending ++ r.due) r' := by
  cases hread : r.read 1 with
  | mk x r₁ =>
    cases read_cases hL hroom Nat.one_pos hr hread with
    | @chars c cs rest _ hstores _ hdue _ =>
      have hlength : (rest ++ r₁.due).length < (pending ++ r.due).length := by
        simp only [hdue, List.length_append, List.length_cons]
        omega
      obtain ⟨r', hrest⟩ := hstores.attained
      rw [hdue]
      exact ⟨r', .read Nat.one_pos hread hrest⟩
    | ended hpending hlater hstop =>
      rw [hpending, due_eq_later hstop, hlater]
      exact ⟨r, .refl r⟩
    | failed hpending _ _ hstores hdue =>
      have hsize := size_read_error hroom hread
      have hsame : [] ++ r₁.due = pending ++ r.due := by rw [hpending, hdue]
      obtain ⟨r', hrest⟩ := hstores.attained
      rw [hsame] at hrest
      exact ⟨r', .failed ⟨1, Nat.one_pos, hread⟩ hrest⟩
termination_by ((pending ++ r.due).length, r.script.size)
decreasing_by
  · exact .left _ _ hlength
  · exact .right' _ (Nat.le_of_eq (congrArg List.length hsame)) hsize

theorem Stores.toCome (hr : r.Stores pending) : ToCome r (pending ++ r.due).length where
  attained := by
    obtain ⟨r', h⟩ := hr.attained hL hroom
    exact ⟨_, r', h, rfl⟩
  bound h := by
    obtain ⟨pending', -, hdue⟩ := hr.fetched hL hroom h
    rw [hdue, List.length_append]
    exact Nat.le_add_right _ _

/-- A reader of a byte stream has the text of its bytes to come, and after any reads the rest of
it. -/
theorem toCome_ofEncoding {script : ByteScript} {encoding : L.Encoding}
    (h : Fetches (DecodedReader.ofEncoding script encoding) cs r) :
    ∃ k, ToCome r k ∧
      cs.length + k = (L.decodeAll (L.newDecoder encoding) script.bytes).length := by
  have hstart : (DecodedReader.ofEncoding script encoding).Stores [] := ⟨[], rfl, rfl⟩
  obtain ⟨pending, hstores, hdue⟩ := hstart.fetched hL hroom h
  refine ⟨_, hstores.toCome hL hroom, ?_⟩
  rw [← List.length_append, ← hdue]
  rfl

end Laws

end DecodedReader

/-! ## Every loop ends -/

/-- **Every loop over lines ends.** One buffer takes no more calls of its source than it has places,
and one. Scanners advance, of a replay buffer by what is pending there and to come below, and of a
text by what remains of it. Fetching takes no more reads than the script has bytes and items, and
one, whatever the decoder does; and what is to come from a byte stream is its text, less what was
brought. -/
theorem lines_end [Rewindable σ ε] [Reader ρ ε'] {L : EncodingLibrary} :
    (∀ (m : Nat) (buf : Array Char) (s : Traced σ ε),
      (Line.scan m 0 buf s).2.2.log.length ≤ s.log.length + m + 1) ∧
    (∀ (w : LineScanner (ReplayBuffer ρ)) (j : Nat), ToCome w.source.inner j →
      Advances ReplayBuffer.Outstanding w (w.source.pending.length + j)) ∧
    (∀ w : LineScanner TextSource, Advances TextSource.Outstanding w w.source.remaining) ∧
    (∀ (r : DecodedReader L) (rounds : Nat), r.script.size < rounds →
      r.refillIn rounds = some r.refill) ∧
    (L.Streams → L.Suffices DecodedReader.chunkSize →
      ∀ (script : ByteScript) (encoding : L.Encoding) (cs : List Char) (r : DecodedReader L),
        Fetches (DecodedReader.ofEncoding script encoding) cs r →
        ∃ k, ToCome r k ∧
          cs.length + k = (L.decodeAll (L.newDecoder encoding) script.bytes).length) := by
  refine ⟨?_, ?_, TextSource.advances, ?_, ?_⟩
  · intro m buf s
    exact scan_calls m 0 buf s
  · intro w j htocome
    exact ReplayBuffer.advances ⟨j, htocome, rfl⟩
  · intro r rounds h
    exact DecodedReader.refillIn_eq h
  · intro hL hroom script encoding cs r h
    exact DecodedReader.toCome_ofEncoding hL hroom h

/-- Retained characters that make a line of just one buffer, an empty line, and an end behind a line
that was spilled. -/
theorem lines_end_after_spill :
    let script : ByteScript :=
      [.fault ⟨.interrupted, "again"⟩, .bytes [0x0A], .fault ⟨.interrupted, "again"⟩,
        .bytes [0x63, 0x64]]
    let start : DecodedReader .own := .ofEncoding script .utf8
    let w : LineScanner (ReplayBuffer (DecodedReader .own)) := {
      source := { inner := start, capacity := 3, pending := ['a', 'b', '\n'] }
      options := ⟨2, by decide⟩ }
    (start.refillIn 8 = some start.refill ∧ ToCome start 3) ∧
      ∀ fuel rounds, 6 < fuel → 6 < rounds →
        ∃ w', w.readAll fuel rounds = some (["ab", "", "cd"], none, w') := by
  intro script start w
  obtain ⟨-, hbuffer, -, hfetch, hreader⟩ :=
    lines_end (σ := TextSource) (ρ := DecodedReader .own) (L := .own)
  have hL := EncodingLibrary.own_streams
  have hroom := EncodingLibrary.own_suffices DecodedReader.chunkSize
  obtain ⟨k, htocome, hk⟩ := hreader hL hroom script .utf8 [] start (.refl _)
  have hlength : (EncodingLibrary.own.decodeAll (.ofEncoding .utf8) script.bytes).length = 3 := by
    decide +kernel
  obtain rfl : k = 3 := by simpa only [List.length_nil, Nat.zero_add, hlength] using hk
  refine ⟨⟨hfetch start 8 (by decide), htocome⟩, ?_⟩
  obtain ⟨lines, e, w', -, hloop⟩ := (hbuffer w 3 htocome).ends
  have hanswer := congrArg (Option.map fun out => (out.1, out.2.1))
    (hloop 7 7 (by decide) (by decide))
  have hlines : (w.readAll 7 7).map (fun out => (out.1, out.2.1))
      = some (["ab", "", "cd"], none) := by
    decide +kernel
  obtain ⟨rfl, rfl⟩ : ["ab", "", "cd"] = lines ∧ none = e := by
    simpa only [Option.map_some, Option.some.injEq, Prod.mk.injEq] using hlines.symm.trans hanswer
  intro fuel rounds hfuel hrounds
  exact ⟨w', hloop fuel rounds hfuel hrounds⟩

end CharStream
