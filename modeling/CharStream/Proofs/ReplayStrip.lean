import CharStream.Proofs.Cursor

/-!
# A replay buffer in one strip of memory

A replay buffer keeps the characters that were handed out since the mark, and those that are
pending. `Strip` stores the two one behind the other in one strip, with the place of the next
character to hand out and the limit of the mark. Reading then is cutting a slice out of the strip,
and letting go of what is behind is dropping characters from its front.

**Ranges.** Slices and drops are checked: one that is out of range leaves no strip at all, and no
call brings it back. `strip_mirrors` says that a strip answers every call as the buffer does and
lands on the strip of the buffer, so none is ever out of range.

**Memory.** `Bounded` says that what is kept fits the capacity. It is not checked when characters
are added. It holds because only a mark adds any, and does so when nothing is pending: what is kept
then is all behind the mark's limit, or let go.

`replayBuffer_within` joins them for every sequence of calls.
-/

namespace CharStream

variable {σ τ ρ ε : Type}

/-! ## The strip -/

/-- The reader `inner`, and what is kept of its characters: `retained`, of which the one at `pos` is
to be handed out next, and how far from the front `pos` may get while there is a mark. -/
structure Strip (ρ : Type) where
  inner : ρ
  capacity : Nat
  retained : List Char := []
  pos : Nat := 0
  limit : Option Nat := none

namespace Strip

/-- The `count` characters from `start` on; `none` if they are not all there. -/
def slice? (start count : Nat) (cs : List Char) : Option (List Char) :=
  if start + count ≤ cs.length then some ((cs.drop start).take count) else none

/-- Drops the characters before the position; `none` if they are not all there. -/
def drain? (s : Strip ρ) : Option (Strip ρ) :=
  if s.pos ≤ s.retained.length then
    some { s with retained := s.retained.drop s.pos, pos := 0 }
  else none

/-- Moves the position over the next `count` characters. -/
def advance (count : Nat) (s : Strip ρ) : Strip ρ := { s with pos := s.pos + count }

/-- Forgets the mark. -/
def unmark (s : Strip ρ) : Strip ρ := { s with limit := none }

/-- Forgets a mark that is left too far behind, and lets go of what no mark needs. -/
def settle? (s : Strip ρ) : Option (Strip ρ) :=
  let s := if s.limit.any (· < s.pos) then s.unmark else s
  if s.limit.isNone ∧ 0 < s.pos then s.drain? else some s

/-- Keeps characters that were handed out as they came, if there is a mark. -/
def keep (cs : List Char) (s : Strip ρ) : Strip ρ :=
  if s.limit.isSome then advance cs.length { s with retained := s.retained ++ cs } else s

/-- Hands out a slice, or what one read of the inner reader brings. -/
def read [Reader ρ ε] (n : Nat) :
    Option (Strip ρ) → Except (ReplayError ε) (List Char) × Option (Strip ρ)
  | none => (.ok [], none)
  | some s =>
    if n = 0 then (.ok [], some s)
    else if s.pos < s.retained.length then
      let count := min n (s.retained.length - s.pos)
      match slice? s.pos count s.retained with
      | none => (.ok [], none)
      | some cs => (.ok cs, settle? (s.advance count))
    else
      match Reader.read n s.inner with
      | (.error e, inner) => (.error (.read e), some { s with inner })
      | (.ok cs, inner) => (.ok cs, settle? (keep cs { s with inner }))

/-- Marks the position, if the look-ahead fits the capacity. -/
def mark (limit : Nat) :
    Option (Strip ρ) → Except (ReplayError ε) Unit × Option (Strip ρ)
  | none => (.ok (), none)
  | some s =>
    if s.capacity < limit then (.error (.lookahead limit s.capacity), some s)
    else (.ok (), s.unmark.drain?.map fun s => { s with limit := some limit })

/-- Returns to the mark. -/
def rewind : Option (Strip ρ) → Except (ReplayError ε) Unit × Option (Strip ρ)
  | none => (.ok (), none)
  | some s =>
    if s.limit.isNone then (.error .noMark, some s) else (.ok (), some { s with pos := 0 })

/-! Without a mark everything behind the position goes, and so it does when the mark is left too far
behind; else all is kept. -/

theorem settle?_of_none {s : Strip ρ} (h : s.limit = none) : s.settle? = s.unmark.drain? := by
  obtain ⟨inner, capacity, retained, pos, limit⟩ := s
  obtain rfl : limit = none := h
  cases pos with
  | zero => rfl
  | succ pos => rfl

theorem settle?_of_le {s : Strip ρ} {limit : Nat} (h : s.limit = some limit)
    (hle : s.pos ≤ limit) : s.settle? = some s := by
  have hnear : ¬ s.limit.any (· < s.pos) = true := by
    rw [h]
    simpa using hle
  have hmarked : ¬ (s.limit.isNone ∧ 0 < s.pos) := by simp [h]
  rw [settle?, if_neg hnear]
  exact if_neg hmarked

theorem settle?_of_lt {s : Strip ρ} {limit : Nat} (h : s.limit = some limit)
    (hlt : limit < s.pos) : s.settle? = s.unmark.drain? := by
  have hfar : s.limit.any (· < s.pos) = true := by
    rw [h]
    simpa using hlt
  rw [settle?, if_pos hfar]
  exact if_pos ⟨rfl, Nat.zero_lt_of_lt hlt⟩

theorem length_slice?_le {start count : Nat} {cs ds : List Char}
    (h : slice? start count cs = some ds) : ds.length ≤ count := by
  unfold slice? at h
  split at h
  · obtain rfl := Option.some.inj h
    exact List.length_take_le _ _
  · cases h

theorem length_read_le [Reader ρ ε] {n : Nat} {s s' : Option (Strip ρ)} {cs : List Char}
    (h : read (ε := ε) n s = (.ok cs, s')) : cs.length ≤ n := by
  cases s with
  | none =>
    obtain ⟨hcs, -⟩ := Prod.mk.inj h
    obtain rfl := Except.ok.inj hcs
    exact Nat.zero_le n
  | some s =>
    rw [read] at h
    split at h
    · obtain rfl := Except.ok.inj (Prod.mk.inj h).1
      exact Nat.zero_le n
    · split at h
      · dsimp only at h
        split at h
        · obtain rfl := Except.ok.inj (Prod.mk.inj h).1
          exact Nat.zero_le n
        · next hslice =>
          obtain rfl := Except.ok.inj (Prod.mk.inj h).1
          exact Nat.le_trans (length_slice?_le hslice) (Nat.min_le_left _ _)
      · split at h
        · cases (Prod.mk.inj h).1
        · next hr =>
          obtain rfl := Except.ok.inj (Prod.mk.inj h).1
          exact Reader.length_read_le hr

instance [Reader ρ ε] : Rewindable (Option (Strip ρ)) (ReplayError ε) where
  read := read
  length_read_le := length_read_le
  lookahead s := s.elim 0 (·.capacity)
  mark := mark
  rewind := rewind

end Strip

/-! ## The strip of a buffer -/

namespace ReplayBuffer

/-- What the buffer keeps, in one strip. -/
def strip (b : ReplayBuffer ρ) : Strip ρ where
  inner := b.inner
  capacity := b.capacity
  retained := b.retained
  pos := b.position
  limit := b.marked.map (·.limit)

variable {b : ReplayBuffer ρ}

theorem retained_eq_drop (b : ReplayBuffer ρ) : b.retained.drop b.position = b.pending := by
  unfold retained position
  cases b.marked with
  | none => rfl
  | some m => exact List.drop_left

theorem length_retained (b : ReplayBuffer ρ) :
    b.retained.length = b.position + b.pending.length := by
  unfold retained position
  cases b.marked with
  | none => simp
  | some m => simp

theorem drain?_strip {cs rest : List Char} (h : b.pending = cs ++ rest) :
    (b.strip.advance cs.length).unmark.drain?
      = some { b with pending := rest, marked := none }.strip := by
  have hle : b.position + cs.length ≤ b.retained.length := by
    rw [length_retained, h, List.length_append]
    omega
  have hdrop : b.retained.drop (b.position + cs.length) = rest := by
    rw [← List.drop_drop, retained_eq_drop, h, List.drop_left]
  have hdrained : (b.strip.advance cs.length).unmark.drain?
      = some { (b.strip.advance cs.length).unmark with
          retained := b.retained.drop (b.position + cs.length), pos := 0 } := if_pos hle
  rw [hdrained, hdrop]
  rfl

/-- **Handing out** the first of the pending characters moves the position over them, and then lets
go of what no mark needs. -/
theorem settle?_strip {cs rest : List Char} (h : b.pending = cs ++ rest) :
    (b.strip.advance cs.length).settle?
      = some { b with pending := rest, marked := b.marked.bind (Mark.advance cs) }.strip := by
  cases hm : b.marked with
  | none =>
    have hlimit : (b.strip.advance cs.length).limit = none := by simp [Strip.advance, strip, hm]
    rw [Strip.settle?_of_none hlimit, drain?_strip h, Option.bind_none]
  | some m =>
    obtain ⟨limit, ⟨handed⟩⟩ := m
    have hlimit : (b.strip.advance cs.length).limit = some limit := by
      simp [Strip.advance, strip, hm]
    have hpos : (b.strip.advance cs.length).pos = handed.length + cs.length := by
      simp [Strip.advance, strip, position, hm]
    rw [Option.bind_some, Mark.advance_toArray, List.length_append]
    by_cases hle : handed.length + cs.length ≤ limit
    · rw [if_pos hle, Strip.settle?_of_le hlimit (hpos ▸ hle)]
      simp [Strip.advance, strip, position, retained, hm, h]
    · rw [if_neg hle, Strip.settle?_of_lt hlimit (hpos ▸ Nat.lt_of_not_le hle), drain?_strip h]

/-- Characters that come when nothing is pending are kept if there is a mark, and count as handed
out. -/
theorem settle?_keep (h : b.pending = []) (cs : List Char) (inner : ρ) :
    (Strip.keep cs { b.strip with inner }).settle?
      = some { b with inner, marked := b.marked.bind (Mark.advance cs) }.strip := by
  obtain ⟨inner₀, capacity, pending, marked⟩ := b
  obtain rfl : pending = [] := h
  have hsettle (fresh : List Char) :=
    settle?_strip (b := ⟨inner, capacity, fresh, marked⟩) (List.append_nil fresh).symm
  cases marked with
  | none => exact hsettle []
  | some m =>
    have hkeep : Strip.keep cs { strip ⟨inner₀, capacity, [], some m⟩ with inner }
        = (strip ⟨inner, capacity, cs, some m⟩).advance cs.length := by
      simp [Strip.keep, strip, retained, position]
    rw [hkeep]
    exact hsettle cs

theorem slice?_strip (n : Nat) :
    Strip.slice? b.strip.pos (min n (b.strip.retained.length - b.strip.pos)) b.strip.retained
      = some (b.pending.take n) := by
  have hpending : b.strip.retained.drop b.strip.pos = b.pending := b.retained_eq_drop
  have hlen : b.strip.retained.length = b.strip.pos + b.pending.length := b.length_retained
  rw [Strip.slice?, if_pos (by omega), hpending, hlen, Nat.add_sub_cancel_left, ← List.take_take,
    List.take_length]

/-! ## Every call -/

theorem read_strip [Reader ρ ε] (n : Nat) (b : ReplayBuffer ρ) :
    Strip.read n (some b.strip) = (b.read n).map id fun b : ReplayBuffer ρ => some b.strip := by
  have hlen : b.strip.retained.length = b.strip.pos + b.pending.length := b.length_retained
  rw [Strip.read]
  by_cases hn : n = 0
  · rw [if_pos hn, read, if_pos hn]
    rfl
  · rw [if_neg hn]
    rcases read_cases (Nat.pos_of_ne_zero hn) (Prod.eta (b.read n)).symm with
      ⟨hne, hx, hb'⟩ | ⟨hnil, cs, inner, hr, hx, hb'⟩ | ⟨hnil, e, inner, hr, hx, hb'⟩
    · have hlt : b.strip.pos < b.strip.retained.length := by
        have hpending := List.length_pos_iff.2 hne
        omega
      have hcount : min n (b.strip.retained.length - b.strip.pos) = (b.pending.take n).length := by
        rw [hlen, Nat.add_sub_cancel_left, List.length_take]
      have hsettle := settle?_strip (b := b) (List.take_append_drop n b.pending).symm
      rw [if_pos hlt]
      simp only [slice?_strip]
      rw [hcount, hsettle, ← hb', ← hx]
      rfl
    · have hge : ¬ b.strip.pos < b.strip.retained.length := by
        rw [hlen, hnil]
        exact Nat.lt_irrefl _
      have hr' : Reader.read n b.strip.inner = (.ok cs, inner) := hr
      rw [if_neg hge, hr', Prod.map, hx, hb', ← settle?_keep hnil cs inner]
      rfl
    · have hge : ¬ b.strip.pos < b.strip.retained.length := by
        rw [hlen, hnil]
        exact Nat.lt_irrefl _
      have hr' : Reader.read n b.strip.inner = (.error e, inner) := hr
      rw [if_neg hge, hr', Prod.map, hx, hb']
      rfl

end ReplayBuffer

/-- **A strip answers like the buffer**, and no slice or drop is ever out of range. -/
theorem strip_mirrors [Reader ρ ε] :
    Mirrors fun b : ReplayBuffer ρ => (some b.strip : Option (Strip ρ)) where
  read := ReplayBuffer.read_strip
  readChar := readOne_map ReplayBuffer.read_strip
  skip n := skipFrom_map ReplayBuffer.read_strip n 0
  lookahead b := rfl
  mark n b := by
    show Strip.mark n (some b.strip) = (b.mark n).map id fun b : ReplayBuffer ρ => some b.strip
    by_cases hlt : b.capacity < n
    · have hrefused : b.strip.capacity < n := hlt
      rw [Strip.mark, ReplayBuffer.mark, if_pos hlt, if_pos hrefused]
      rfl
    · have hgranted : ¬ b.strip.capacity < n := hlt
      have hdrain := ReplayBuffer.drain?_strip (b := b) (List.nil_append b.pending).symm
      rw [Strip.mark, ReplayBuffer.mark, if_neg hlt, if_neg hgranted]
      refine Prod.ext rfl ?_
      exact congrArg (Option.map fun s : Strip ρ => { s with limit := some n }) hdrain
  rewind b := by
    show Strip.rewind (some b.strip) = b.rewind.map id fun b : ReplayBuffer ρ => some b.strip
    cases hm : b.marked with
    | none =>
      have hnone : b.strip.limit.isNone := by simp [ReplayBuffer.strip, hm]
      rw [Strip.rewind, if_pos hnone, ReplayBuffer.rewind, hm]
      rfl
    | some m =>
      have hsome : ¬ b.strip.limit.isNone := by simp [ReplayBuffer.strip, hm]
      rw [Strip.rewind, if_neg hsome, ReplayBuffer.rewind, hm]
      simp [Prod.map, ReplayBuffer.strip, ReplayBuffer.retained, ReplayBuffer.position, hm]

/-! ## What is kept fits -/

namespace ReplayBuffer

/-- What is kept fits the capacity, and so does the limit of a mark, which is not exceeded. -/
structure Bounded (capacity : Nat) (b : ReplayBuffer ρ) : Prop where
  kept : b.position + b.pending.length ≤ capacity
  marked : ∀ m, b.marked = some m → m.handed.size ≤ m.limit ∧ m.limit ≤ capacity
  capacity : b.capacity = capacity

variable {capacity : Nat} {b b' : ReplayBuffer ρ}

theorem bounded_of_none (hc : b.capacity = capacity) (hm : b.marked = none)
    (hp : b.pending.length ≤ capacity) : b.Bounded capacity := by
  refine ⟨?_, by simp [hm], hc⟩
  simpa [position, hm] using hp

theorem bounded_of_some {m : Mark} (hc : b.capacity = capacity) (hm : b.marked = some m)
    (hsize : m.handed.size ≤ m.limit) (hlimit : m.limit ≤ capacity)
    (hp : m.handed.size + b.pending.length ≤ capacity) : b.Bounded capacity := by
  refine ⟨?_, ?_, hc⟩
  · simpa [position, hm] using hp
  · intro m' hm'
    obtain rfl := Option.some.inj (hm.symm.trans hm')
    exact ⟨hsize, hlimit⟩

/-- **Handing out** keeps the bounds, be it pending characters, or fresh ones when nothing is
pending. The first are kept already; of the others a mark keeps no more than its limit. -/
theorem Bounded.hand (h : b.Bounded capacity) {cs fresh : List Char}
    (hcapacity : b'.capacity = b.capacity) (hcons : b.pending ++ fresh = cs ++ b'.pending)
    (hfresh : fresh = [] ∨ b'.pending = [])
    (hmarked : b'.marked = b.marked.bind (Mark.advance cs)) : b'.Bounded capacity := by
  have hcapacity := hcapacity.trans h.capacity
  have hkept := h.kept
  have hlen := congrArg List.length hcons
  rw [List.length_append, List.length_append] at hlen
  have hpending : b'.pending.length ≤ capacity := by
    rcases hfresh with rfl | hnil
    · rw [List.length_nil] at hlen
      omega
    · simp [hnil]
  cases hm : b.marked with
  | none =>
    rw [hm, Option.bind_none] at hmarked
    exact bounded_of_none hcapacity hmarked hpending
  | some m =>
    obtain ⟨limit, ⟨handed⟩⟩ := m
    obtain ⟨-, hlimit⟩ := h.marked _ hm
    have hposition : b.position = handed.length := by simp [position, hm]
    rw [hm, Option.bind_some, Mark.advance_toArray] at hmarked
    by_cases hle : (handed ++ cs).length ≤ limit
    · rw [if_pos hle] at hmarked
      refine bounded_of_some hcapacity hmarked hle hlimit ?_
      rcases hfresh with rfl | hnil
      · simp only [List.size_toArray, List.length_append, List.length_nil] at hlen ⊢
        omega
      · rw [hnil]
        exact Nat.le_trans hle hlimit
    · rw [if_neg hle] at hmarked
      exact bounded_of_none hcapacity hmarked hpending

theorem Bounded.read [Reader ρ ε] (h : b.Bounded capacity) (n : Nat) :
    (b.read (ε := ε) n).2.Bounded capacity := by
  by_cases hn : n = 0
  · rw [ReplayBuffer.read, if_pos hn]
    exact h
  · rcases read_cases (Nat.pos_of_ne_zero hn) (Prod.eta (b.read (ε := ε) n)).symm with
      ⟨-, -, hb'⟩ | ⟨hnil, cs, inner, -, -, hb'⟩ | ⟨-, e, inner, -, -, hb'⟩
    · have hcons : b.pending ++ [] = b.pending.take n ++ b.pending.drop n := by simp
      rw [hb']
      exact h.hand rfl hcons (.inl rfl) rfl
    · have hcons : b.pending ++ cs = cs ++ b.pending := by simp [hnil]
      rw [hb']
      exact h.hand rfl hcons (.inr hnil) rfl
    · rw [hb']
      exact ⟨h.kept, h.marked, h.capacity⟩

theorem Bounded.mark (h : b.Bounded capacity) (limit : Nat) :
    (b.mark (ε := ε) limit).2.Bounded capacity := by
  unfold ReplayBuffer.mark
  split
  · exact h
  · next hle =>
    have hlimit : limit ≤ capacity := h.capacity ▸ Nat.le_of_not_lt hle
    have hpending := Nat.le_trans (Nat.le_add_left _ _) h.kept
    exact bounded_of_some h.capacity rfl (Nat.zero_le limit) hlimit (by simpa using hpending)

theorem Bounded.rewind (h : b.Bounded capacity) : (b.rewind (ε := ε)).2.Bounded capacity := by
  unfold ReplayBuffer.rewind
  split
  · exact h
  · next m hm =>
    have hkept := h.kept
    rw [position, hm] at hkept
    refine bounded_of_some (m := { m with handed := #[] }) h.capacity rfl (Nat.zero_le m.limit)
      (h.marked m hm).2 ?_
    simpa using hkept

/-- **Every call keeps the bounds**, whether it succeeds or fails. -/
theorem Bounded.call [Reader ρ ε] (h : b.Bounded capacity) (call : Call) :
    (call.run b).2.Bounded capacity := by
  cases call with
  | read n => exact h.read n
  | readChar => exact readOne_keeps (P := Bounded capacity) (fun n b h => h.read n) h
  | skip n => exact skipFrom_keeps (P := Bounded capacity) (fun n b h => h.read n) n 0 h
  | mark limit => exact h.mark limit
  | rewind => exact h.rewind

end ReplayBuffer

/-- The position of a strip is in it, what is kept fits the capacity, and so does the limit of a
mark, which the position is within. Nothing is kept before the position without a mark. -/
structure Strip.Within (capacity : Nat) (s : Strip ρ) : Prop where
  position : s.pos ≤ s.retained.length
  retained : s.retained.length ≤ capacity
  unmarked : s.limit = none → s.pos = 0
  marked : ∀ limit, s.limit = some limit → s.pos ≤ limit ∧ limit ≤ capacity

theorem ReplayBuffer.Bounded.within {capacity : Nat} {b : ReplayBuffer ρ}
    (h : b.Bounded capacity) : b.strip.Within capacity := by
  have hlen : b.strip.retained.length = b.strip.pos + b.pending.length := b.length_retained
  refine ⟨by omega, hlen ▸ h.kept, ?_, ?_⟩
  · intro hnone
    have hm : b.marked = none := Option.map_eq_none_iff.1 hnone
    simp [strip, position, hm]
  · intro limit hsome
    obtain ⟨m, hm, rfl⟩ := Option.map_eq_some_iff.1 hsome
    have hpos : b.strip.pos = m.handed.size := by simp [strip, position, hm]
    exact hpos ▸ h.marked m hm

/-! ## Every sequence of calls -/

theorem ReplayBuffer.Bounded.after [Reader ρ ε] {capacity : Nat} {b : ReplayBuffer ρ}
    (h : b.Bounded capacity) (calls : List Call) : (after calls b).Bounded capacity := by
  induction calls generalizing b with
  | nil => exact h
  | cons call calls ih => exact ih (h.call call)

/-- **A replay buffer keeps within its memory**, for any reader and any calls. Laid out in one strip
it answers like the buffer itself, and no slice or drop is out of range. Its position is within what
is kept, and that within the capacity. -/
theorem replayBuffer_within [Reader ρ ε] (r : ρ) (capacity : Nat) (calls : List Call) :
    let b : ReplayBuffer ρ := { inner := r, capacity }
    let strip : Option (Strip ρ) := some { inner := r, capacity }
    answers calls strip = answers calls b ∧
      ∃ s : Strip ρ, after calls strip = some s ∧ s = (after calls b).strip ∧
        s.capacity = capacity ∧ s.Within capacity := by
  intro b strip
  have hbounded : b.Bounded capacity := ReplayBuffer.bounded_of_none rfl rfl (Nat.zero_le _)
  have hafter := hbounded.after calls
  exact ⟨strip_mirrors.answers calls b, _, strip_mirrors.after calls b, rfl, hafter.capacity,
    hafter.within⟩

end CharStream
