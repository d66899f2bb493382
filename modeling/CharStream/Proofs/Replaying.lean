import CharStream.Proofs.ReplayBuffer
import CharStream.Proofs.Search
import CharStream.TextSource

/-!
# Sources that replay a reader

A rewindable source owes its client the characters of some plain reader, in order, and after a
rewind the same characters again. `Replays` states this contract for marks of one limit. A state of
the source is accounted for by three things:

* `handed` — what was handed out since the mark, if the mark is known to hold,
* `ahead` — what the reader has delivered already and the source will hand out first,
* `r` — the state of the reader, which delivers what follows.

Reading moves characters from the reader through `ahead` to `handed`, and never loses one:
`ahead ++ fetched = brought ++ ahead'`. Rewinding puts `handed` in front of `ahead` again.

Main results: `replayBuffer_replays` and `textSource_replays`, that the two sources keep the
contract, and `Replays.run` and `Replays.spilled`, which carry it through runs of reads and
through the full buffers of a search.
-/

namespace CharStream

variable {σ ρ ε ε' : Type}

/-! ## The contract -/

/-- The source replays the reader: `At s handed ahead r` accounts for the states of the source,
`wrap` is what it makes of the reader's errors, and a mark of `limit` characters holds for `bound`
of them. -/
structure Replays [Rewindable σ ε'] [Reader ρ ε] (limit bound : Nat) (wrap : ε → ε')
    (At : σ → Option (List Char) → List Char → ρ → Prop) : Prop where
  lookahead {s : σ} {handed : Option (List Char)} {ahead : List Char} {r : ρ} :
    At s handed ahead r → limit ≤ Rewindable.lookahead s
  mark {s : σ} {handed : Option (List Char)} {ahead : List Char} {r : ρ} :
    At s handed ahead r →
      ∃ s', Rewindable.mark limit s = (.ok (), s') ∧ At s' (some []) ahead r
  rewind {s : σ} {handed ahead : List Char} {r : ρ} :
    At s (some handed) ahead r →
      ∃ s', Rewindable.rewind s = (.ok (), s') ∧ At s' (some []) (handed ++ ahead) r
  read {s s' : σ} {handed : Option (List Char)} {ahead : List Char} {r : ρ} {n : Nat}
      {cs : List Char} :
    At s handed ahead r → 0 < n → Reader.read n s = (.ok cs, s') →
      ∃ ps handed' ahead' r', Reads r ps r' ∧ ahead ++ ps.flatten = cs ++ ahead' ∧
        (cs = [] → ahead' = [] ∧ Ended ps) ∧ At s' handed' ahead' r' ∧
        ∀ hs, handed = some hs → (hs ++ cs).length ≤ bound → handed' = some (hs ++ cs)
  fails {s s' : σ} {handed : Option (List Char)} {ahead : List Char} {r : ρ} {n : Nat} {e' : ε'} :
    At s handed ahead r → 0 < n → Reader.read n s = (.error e', s') →
      ∃ e r', e' = wrap e ∧ ahead = [] ∧ Fails r e r' ∧ At s' handed [] r'
  readChar (s : σ) : Reader.readChar s = readOne Reader.read s
  skip {s : σ} {handed : Option (List Char)} {ahead : List Char} {r : ρ} {k : Nat} :
    At s handed ahead r → k ≤ ahead.length →
      ∃ s' handed', Reader.skip k s = (.ok k, s') ∧ At s' handed' (ahead.drop k) r

namespace Replays

variable [Rewindable σ ε'] [Reader ρ ε] {limit bound : Nat} {wrap : ε → ε'}
  {At : σ → Option (List Char) → List Char → ρ → Prop}

/-- **A run of reads** moves characters from the reader to the client, and none is lost. A mark
outlasts it that is not left too far behind. -/
theorem run (hR : Replays limit bound wrap At) {s s' : σ} {ps : List (List Char)}
    {handed : Option (List Char)} {ahead : List Char} {r : ρ} (h : Reads s ps s')
    (hat : At s handed ahead r) :
    ∃ qs handed' ahead' r', Reads r qs r' ∧ ahead ++ qs.flatten = ps.flatten ++ ahead' ∧
      (Ended ps → ahead' = [] ∧ Ended qs) ∧ At s' handed' ahead' r' ∧
      ∀ hs, handed = some hs → (hs ++ ps.flatten).length ≤ bound →
        handed' = some (hs ++ ps.flatten) := by
  induction h with
  | refl =>
    refine ⟨[], handed, ahead, r, .refl r, by simp, fun h => by simp [Ended] at h, hat, ?_⟩
    intro hs hsome _
    simpa using hsome
  | @snoc s₁ s₂ ps n cs _ hn hr ih =>
    obtain ⟨qs, h₁, a₁, r₁, hqs, hcons, -, hat₁, hkeep⟩ := ih
    obtain ⟨qs', h₂, a₂, r₂, hqs', hcons', hend, hat₂, hkeep'⟩ := hR.read hat₁ hn hr
    have hflat : (ps ++ [cs]).flatten = ps.flatten ++ cs := by simp
    refine ⟨qs ++ qs', h₂, a₂, r₂, hqs.trans hqs', ?_, ?_, hat₂, ?_⟩
    · rw [hflat]
      exact through_append hcons hcons'
    · intro hended
      have hcs : cs = [] := by simpa [Ended] using hended
      exact ⟨(hend hcs).1, (hend hcs).2.append qs⟩
    · intro hs hsome hle
      rw [hflat, ← List.append_assoc] at hle ⊢
      exact hkeep' _ (hkeep hs hsome (by rw [List.length_append] at hle; omega)) hle

/-- The same under a mark that holds, and goes on to hold. -/
theorem reads (hR : Replays limit bound wrap At) {s s' : σ} {ps : List (List Char)}
    {handed ahead : List Char} {r : ρ} (h : Reads s ps s') (hat : At s (some handed) ahead r)
    (hle : (handed ++ ps.flatten).length ≤ bound) :
    ∃ qs ahead' r', Reads r qs r' ∧ ahead ++ qs.flatten = ps.flatten ++ ahead' ∧
      (Ended ps → ahead' = [] ∧ Ended qs) ∧ At s' (some (handed ++ ps.flatten)) ahead' r' := by
  obtain ⟨qs, handed', ahead', r', hqs, hcons, hend, hat', hkeep⟩ := hR.run h hat
  rw [hkeep handed rfl hle] at hat'
  exact ⟨qs, ahead', r', hqs, hcons, hend, hat'⟩

/-- A failure of the source is one of the reader, when everything delivered has been handed out. -/
theorem failed (hR : Replays limit bound wrap At) {s s' : σ} {handed : Option (List Char)}
    {ahead : List Char} {r : ρ} {e' : ε'} (hat : At s handed ahead r) (h : Fails s e' s') :
    ∃ e r', e' = wrap e ∧ ahead = [] ∧ Fails r e r' ∧ At s' handed [] r' := by
  obtain ⟨n, hn, hr⟩ := h
  exact hR.fails hat hn hr

/-- The full buffers of a search are taken from the source in order. -/
theorem spilled (hR : Replays limit bound wrap At) {o : LineOptions} (ho : o.readAhead = limit)
    (hm : o.maxLineLength ≤ bound) {s s' : σ} {cs : List Char} (h : Line.Spilled o s cs s')
    {handed : Option (List Char)} {ahead : List Char} {r : ρ} (hat : At s handed ahead r) :
    ∃ qs handed' ahead' r', Reads r qs r' ∧ ahead ++ qs.flatten = cs ++ ahead' ∧
      At s' handed' ahead' r' := by
  induction h generalizing handed ahead r with
  | nil => exact ⟨[], handed, ahead, r, .refl r, by simp, hat⟩
  | @cons s s₁ s₂ s₃ line cs hmark _ hfull _ ih =>
    obtain ⟨s₁', hmark', hat₁⟩ := hR.mark hat
    rw [ho, hmark'] at hmark
    obtain rfl := (Prod.mk.inj hmark).2
    obtain ⟨ps, hps, hline, hlen⟩ := hfull.full_inv
    obtain ⟨qs, a₁, r₁, hqs, hcons, -, hat₂⟩ := hR.reads hps.reads hat₁ (by simp [hline]; omega)
    obtain ⟨qs', h₂, a₂, r₂, hqs', hcons', hat₃⟩ := ih hat₂
    refine ⟨qs ++ qs', h₂, a₂, r₂, hqs.trans hqs', ?_, hat₃⟩
    rw [hline] at hcons
    exact through_append hcons hcons'

end Replays

/-- Between two calls of a line scanner no mark has to hold. `Holds s ahead r` accounts for the
states of the source then, and with any of the supported options the source replays the reader. -/
structure Serves [Rewindable σ ε'] [Reader ρ ε] (wrap : ε → ε') (Supports : LineOptions → Prop)
    (Holds : σ → List Char → ρ → Prop) : Prop where
  accounts {o : LineOptions} : Supports o →
    ∃ bound At, o.maxLineLength < bound ∧ Replays o.readAhead bound wrap At ∧
      ∀ s ahead r, Holds s ahead r ↔ ∃ handed, At s handed ahead r

/-! ## The replay buffer -/

/-- How a replay buffer keeps the characters of its inner reader. -/
structure ReplayBuffer.Holds (capacity : Nat) (b : ReplayBuffer ρ) (ahead : List Char) (r : ρ) :
    Prop where
  pending : b.pending = ahead
  inner : b.inner = r
  capacity : b.capacity = capacity

/-- The same, and what was handed out since a mark of `limit` characters. -/
structure ReplayBuffer.At (capacity limit : Nat) (b : ReplayBuffer ρ)
    (handed : Option (List Char)) (ahead : List Char) (r : ρ) : Prop
    extends Holds capacity b ahead r where
  marked : ∀ hs, handed = some hs → b.marked = some { limit, handed := hs.toArray }

theorem ReplayBuffer.holds (b : ReplayBuffer ρ) : Holds b.capacity b b.pending b.inner :=
  ⟨rfl, rfl, rfl⟩

theorem ReplayBuffer.Holds.unmarked {capacity : Nat} {b : ReplayBuffer ρ} {ahead : List Char}
    {r : ρ} (h : Holds capacity b ahead r) (limit : Nat) : At capacity limit b none ahead r :=
  ⟨h, by simp⟩

theorem ReplayBuffer.At.advance {capacity limit : Nat} {b : ReplayBuffer ρ}
    {handed : Option (List Char)} {ahead : List Char} {r : ρ}
    (h : At capacity limit b handed ahead r) (cs : List Char) :
    ∃ handed', (∀ hs, handed' = some hs →
        b.marked.bind (Mark.advance cs) = some { limit, handed := hs.toArray }) ∧
      ∀ hs, handed = some hs → (hs ++ cs).length ≤ limit → handed' = some (hs ++ cs) := by
  cases handed with
  | none => exact ⟨none, by simp, by simp⟩
  | some hs =>
    by_cases hle : (hs ++ cs).length ≤ limit
    · refine ⟨some (hs ++ cs), ?_, ?_⟩
      · intro hs' hsome
        cases hsome
        rw [h.marked hs rfl, Option.bind_some, Mark.advance_toArray, if_pos hle]
      · intro hs' hsome _
        cases hsome
        rfl
    · refine ⟨none, by simp, ?_⟩
      intro hs' hsome hle'
      cases hsome
      exact absurd hle' hle

theorem replayBuffer_replays [Reader ρ ε] {capacity limit : Nat} (hle : limit ≤ capacity) :
    Replays (σ := ReplayBuffer ρ) limit limit ReplayError.read
      (ReplayBuffer.At capacity limit) where
  lookahead h := Nat.le_trans hle (Nat.le_of_eq h.capacity.symm)
  mark {b handed ahead r} h := by
    refine ⟨{ b with marked := some { limit } }, if_neg (Nat.not_lt.2 (h.capacity ▸ hle)), ?_⟩
    refine ⟨⟨h.pending, h.inner, h.capacity⟩, ?_⟩
    intro hs hsome
    cases hsome
    rfl
  rewind {b handed ahead r} h := by
    have hm := h.marked handed rfl
    refine ⟨{ b with pending := handed ++ b.pending, marked := some { limit } }, ?_, ?_⟩
    · show ReplayBuffer.rewind b = _
      simp [ReplayBuffer.rewind, hm]
    · refine ⟨⟨by rw [h.pending], h.inner, h.capacity⟩, ?_⟩
      intro hs hsome
      cases hsome
      rfl
  read {b b' handed ahead r n cs} h hn hr := by
    rcases ReplayBuffer.read_cases hn hr with
      ⟨hne, hx, rfl⟩ | ⟨hnil, cs', inner, hr', hx, rfl⟩ | ⟨-, e, inner, -, hx, -⟩
    · obtain rfl := Except.ok.inj hx
      obtain ⟨handed', hm, hkeep⟩ := h.advance (b.pending.take n)
      refine ⟨[], handed', b.pending.drop n, r, .refl r, ?_, ?_, ⟨⟨rfl, h.inner, h.capacity⟩, hm⟩,
        hkeep⟩
      · simp [← h.pending]
      · intro hcs
        exact absurd (List.take_eq_nil_iff.1 hcs) (by simp [hne]; omega)
    · obtain rfl := Except.ok.inj hx
      obtain ⟨handed', hm, hkeep⟩ := h.advance cs
      refine ⟨[cs], handed', [], inner, h.inner ▸ .one hn hr', ?_, ?_,
        ⟨⟨hnil, rfl, h.capacity⟩, hm⟩, hkeep⟩
      · simp [← h.pending, hnil]
      · intro hcs
        exact ⟨rfl, by simp [hcs, Ended]⟩
    · cases hx
  fails {b b' handed ahead r n e'} h hn hr := by
    rcases ReplayBuffer.read_cases hn hr with
      ⟨-, hx, -⟩ | ⟨-, cs, inner, -, hx, -⟩ | ⟨hnil, e, inner, hr', hx, rfl⟩
    · cases hx
    · cases hx
    · refine ⟨e, inner, Except.error.inj hx, h.pending ▸ hnil, h.inner ▸ ⟨n, hn, hr'⟩, ?_⟩
      exact ⟨⟨hnil, rfl, h.capacity⟩, h.marked⟩
  readChar b := rfl
  skip {b handed ahead r k} h hk := by
    obtain ⟨b', hb', hi, hc, hp⟩ := ReplayBuffer.skip_pending (ε := ε) (h.pending ▸ hk)
    refine ⟨b', none, hb', ⟨by rw [hp, h.pending], hi.trans h.inner, hc.trans h.capacity⟩, ?_⟩
    simp

theorem replayBuffer_serves [Reader ρ ε] {capacity : Nat} (hle : capacity ≤ Count.largest) :
    Serves (σ := ReplayBuffer ρ) ReplayError.read (·.maxLineLength < capacity)
      (ReplayBuffer.Holds capacity) where
  accounts {o} ho := by
    have hahead : o.readAhead = o.maxLineLength + 1 :=
      Nat.min_eq_left (Nat.le_trans ho hle)
    refine ⟨o.readAhead, ReplayBuffer.At capacity o.readAhead, by omega,
      replayBuffer_replays (by omega), ?_⟩
    intro b ahead r
    exact ⟨fun h => ⟨none, h.unmarked _⟩, fun ⟨_, h⟩ => h.toHolds⟩

theorem ReplayBuffer.Holds.reads [Reader ρ ε] {capacity : Nat} {b b' : ReplayBuffer ρ}
    {ps : List (List Char)} {ahead : List Char} {r : ρ} (hb : Holds capacity b ahead r)
    (h : Reads b ps b') :
    ∃ qs ahead' r', Reads r qs r' ∧ ahead ++ qs.flatten = ps.flatten ++ ahead' ∧
      (Ended ps → ahead' = [] ∧ Ended qs) ∧ Holds capacity b' ahead' r' := by
  obtain ⟨qs, handed, ahead', r', hqs, hcons, hend, hat', -⟩ :=
    (replayBuffer_replays (Nat.zero_le capacity)).run h (hb.unmarked 0)
  exact ⟨qs, ahead', r', hqs, hcons, hend, hat'.toHolds⟩

theorem ReplayBuffer.Holds.fails [Reader ρ ε] {capacity : Nat} {b b' : ReplayBuffer ρ}
    {e' : ReplayError ε} {ahead : List Char} {r : ρ} (hb : Holds capacity b ahead r)
    (h : Fails b e' b') : ∃ e r', Fails r e r' := by
  obtain ⟨e, r', -, -, hf, -⟩ :=
    (replayBuffer_replays (Nat.zero_le capacity)).failed (hb.unmarked 0) h
  exact ⟨e, r', hf⟩

/-! ## The text in memory -/

/-- How a text in memory keeps the characters of its rest: nothing is ever taken out, so any part
of what follows the position may count as delivered. -/
structure TextSource.At (t : TextSource) (handed : Option (List Char)) (ahead : List Char)
    (r : TextSource) : Prop where
  rest : t.rest = ahead ++ r.rest
  marked : ∀ hs, handed = some hs → t.rewind.rest = hs ++ t.rest

theorem TextSource.rest_skip (n : Nat) (t : TextSource) : (t.skip n).2.rest = t.rest.drop n := by
  show t.text.toList.drop (t.pos + min n t.remaining) = t.rest.drop n
  rw [rest, List.drop_drop, remaining]
  by_cases hn : n ≤ t.text.size - t.pos
  · rw [Nat.min_eq_left hn]
  · rw [List.drop_eq_nil_of_le (by simp; omega), List.drop_eq_nil_of_le (by simp; omega)]

theorem TextSource.rest_of_read {n : Nat} {t t' : TextSource} {cs : List Char}
    (h : Reader.read n t = (.ok cs, t')) :
    cs = t.rest.take n ∧ t'.rest = t.rest.drop n ∧ t'.rewind.rest = t.rewind.rest := by
  have hread : (Except.ok (t.read n).1, (t.read n).2) = (.ok cs, t') := h
  obtain ⟨hcs, rfl⟩ := Prod.mk.inj hread
  exact ⟨Except.ok.inj hcs ▸ t.read_fst n, t.rest_read n, rfl⟩

theorem textSource_replays {limit : Nat} (hle : limit ≤ Count.largest) (bound : Nat) :
    Replays (σ := TextSource) (ρ := TextSource) limit bound id TextSource.At where
  lookahead _ := hle
  mark {t handed ahead r} h := by
    refine ⟨t.mark, rfl, h.rest, ?_⟩
    intro hs hsome
    cases hsome
    rfl
  rewind {t handed ahead r} h := by
    refine ⟨t.rewind, rfl, ?_, ?_⟩
    · rw [h.marked handed rfl, h.rest, List.append_assoc]
    · intro hs hsome
      cases hsome
      rfl
  read {t t' handed ahead r n cs} h hn hr := by
    obtain ⟨hcs, hrest, hmarked⟩ := TextSource.rest_of_read hr
    have hmap (hs : List Char) (hsome : handed.map (· ++ cs) = some hs) :
        t'.rewind.rest = hs ++ t'.rest := by
      obtain ⟨hs', hsome', rfl⟩ := Option.map_eq_some_iff.1 hsome
      rw [hmarked, h.marked hs' hsome', hrest, hcs, List.append_assoc, List.take_append_drop]
    have hkeep (hs : List Char) (hsome : handed = some hs) (_ : (hs ++ cs).length ≤ bound) :
        handed.map (· ++ cs) = some (hs ++ cs) := by
      rw [hsome, Option.map_some]
    by_cases hle : n ≤ ahead.length
    · rw [h.rest, List.take_append_of_le_length hle] at hcs
      refine ⟨[], _, ahead.drop n, r, .refl r, ?_, ?_, ⟨?_, hmap⟩, hkeep⟩
      · simp [hcs]
      · intro hnil
        rw [hcs, List.take_eq_nil_iff] at hnil
        rcases hnil with rfl | rfl
        · exact absurd hn (Nat.lt_irrefl 0)
        · exact absurd hn (Nat.not_lt.2 hle)
      · rw [hrest, h.rest, List.drop_append_of_le_length hle]
    · have hfresh : Reader.read (n - ahead.length) r
          = (.ok (r.read (n - ahead.length)).1, (r.read (n - ahead.length)).2) := rfl
      obtain ⟨hds, hrest', -⟩ := TextSource.rest_of_read hfresh
      rw [h.rest, List.take_append, List.take_of_length_le (by omega), ← hds] at hcs
      refine ⟨_, _, [], _, .one (by omega) hfresh, by simp [hcs], ?_, ⟨?_, hmap⟩, hkeep⟩
      · intro hnil
        rw [hcs, List.append_eq_nil_iff] at hnil
        exact ⟨rfl, by simp [Ended, hnil.2]⟩
      · rw [hrest, h.rest, hrest', List.drop_append, List.drop_of_length_le (by omega)]
  fails {t t' handed ahead r n e'} h hn hr := e'.elim
  readChar t := rfl
  skip {t handed ahead r k} h hk := by
    have hle : k ≤ t.remaining := by
      rw [← TextSource.length_rest, h.rest, List.length_append]
      omega
    refine ⟨(t.skip k).2, none, ?_, ?_, by simp⟩
    · exact Prod.ext (congrArg Except.ok (Nat.min_eq_left hle)) rfl
    · rw [TextSource.rest_skip, h.rest, List.drop_append_of_le_length hk]

theorem textSource_serves : Serves (σ := TextSource) (ρ := TextSource) id (fun _ => True)
    (fun t ahead r => t.rest = ahead ++ r.rest) where
  accounts {o} _ := by
    refine ⟨o.maxLineLength + 1, TextSource.At, Nat.lt_succ_self _,
      textSource_replays (Nat.min_le_right _ _) _, ?_⟩
    intro t ahead r
    exact ⟨fun h => ⟨none, h, by simp⟩, fun ⟨_, h⟩ => h.rest⟩

end CharStream
