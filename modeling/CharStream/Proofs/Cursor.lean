import CharStream.Proofs.Recording
import CharStream.Proofs.ReplayBuffer

/-!
# A replay buffer is a cursor with one mark

Seen from outside, a replay buffer is a place in the sequence of characters that its reader has
delivered so far, and at most one remembered place with a limit. `Cursor` is this view, and
`Cursor.Step` says what a call may answer and where it may lead:

* reading and skipping pass the characters at the cursor, in order, and fall short only when
  everything delivered has been passed and the reader itself reports the end or fails;
* a mark is granted exactly up to the capacity, and lost exactly when the cursor is further past it
  than its limit;
* a rewind goes back to the mark if there is one, and changes nothing else.

`Represents` ties a buffer to its cursor. `Represents.reads` carries it through runs of reads,
`call_step` through every call, and `replayBuffer_run` through every sequence of calls.
-/

namespace CharStream

variable {σ τ ρ ε : Type}

/-! ## Calls -/

/-- A call to a rewindable source. -/
inductive Call where
  | read (n : Nat)
  | readChar
  | skip (n : Nat)
  | mark (limit : Nat)
  | rewind
deriving DecidableEq

/-- What a call answers. -/
inductive Answer (ε : Type) where
  | chars (cs : List Char)
  | char (c : Option Char)
  | skipped (k : Nat)
  | done
  | failed (e : ε)
deriving DecidableEq

/-- The answer that a result stands for. -/
def Answer.of {α : Type} (f : α → Answer ε) : Except ε α → Answer ε
  | .ok a => f a
  | .error e => .failed e

namespace Call

/-- Makes the call. -/
def run [Rewindable σ ε] : Call → σ → Answer ε × σ
  | .read n, s => (Reader.read n s).map (Answer.of .chars) id
  | .readChar, s => (Reader.readChar s).map (Answer.of .char) id
  | .skip n, s => (Reader.skip n s).map (Answer.of .skipped) id
  | .mark limit, s => (Rewindable.mark limit s).map (Answer.of fun () => .done) id
  | .rewind, s => (Rewindable.rewind s).map (Answer.of fun () => .done) id

theorem answered {α : Type} {p : Except ε α × σ} {f : α → Answer ε} {a : Answer ε} {s : σ}
    (h : p.map (Answer.of f) id = (a, s)) : ∃ x, p = (x, s) ∧ a = Answer.of f x := by
  obtain ⟨rfl, rfl⟩ := Prod.mk.inj h
  exact ⟨p.1, rfl, rfl⟩

/-- How many characters the call may pass; `none` for the calls that fetch nothing. -/
def most : Call → Option Nat
  | .read n => some n
  | .readChar => some 1
  | .skip n => some n
  | .mark _ => none
  | .rewind => none

end Call

/-! ## The cursor -/

/-- A place in the characters that were delivered, and perhaps a mark: where it is, and how far past
it the cursor may be. -/
structure Cursor where
  delivered : List Char := []
  pos : Nat := 0
  mark : Option (Nat × Nat) := none
deriving DecidableEq

namespace Cursor

/-- The cursor passes `k` characters while the pieces `ps` arrive. The mark stays if it is not left
too far behind. -/
structure Moved (c : Cursor) (ps : List (List Char)) (k : Nat) (c' : Cursor) : Prop where
  delivered : c'.delivered = c.delivered ++ ps.flatten
  pos : c'.pos = c.pos + k
  inside : c'.pos ≤ c'.delivered.length
  mark : c'.mark = c.mark.filter fun (m, limit) => c'.pos ≤ m + limit

/-- The characters between two places of the cursor. -/
def passed (c c' : Cursor) : List Char := (c'.delivered.take c'.pos).drop c.pos

/-- Everything delivered is passed, and the last of the pieces is the reader's report of the end. -/
def AtEnd (c : Cursor) (ps : List (List Char)) : Prop := c.pos = c.delivered.length ∧ Ended ps

/-- What a call may do to the cursor. The third argument is what the reader below answered
meanwhile. -/
inductive Step (capacity : Nat) (c : Cursor) :
    Call → List (Except ε (List Char)) → Answer (ReplayError ε) → Cursor → Prop
  | read {n k : Nat} {ps : List (List Char)} {c' : Cursor} :
      c.Moved ps k c' → k ≤ n → (0 < n → k = 0 → c'.AtEnd ps) →
      Step capacity c (.read n) (ps.map .ok) (.chars (c.passed c')) c'
  | readChar {next : Option Char} {ps : List (List Char)} {c' : Cursor} :
      c.Moved ps next.toList.length c' → c.passed c' = next.toList →
      (next = none → c'.AtEnd ps) →
      Step capacity c .readChar (ps.map .ok) (.char next) c'
  | skip {n k : Nat} {ps : List (List Char)} {c' : Cursor} :
      c.Moved ps k c' → k ≤ n → (k < n → c'.AtEnd ps) →
      Step capacity c (.skip n) (ps.map .ok) (.skipped k) c'
  /-- The reader failed. What a skip had passed before stays passed. -/
  | failed {call : Call} {n k : Nat} {ps : List (List Char)} {e : ε} {c' : Cursor} :
      call.most = some n → c.Moved ps k c' → k < n → (k = 0 ∨ call = .skip n) →
      c'.pos = c'.delivered.length →
      Step capacity c call (ps.map .ok ++ [.error e]) (.failed (.read e)) c'
  | mark {limit : Nat} : limit ≤ capacity →
      Step capacity c (.mark limit) [] .done { c with mark := some (c.pos, limit) }
  | markRefused {limit : Nat} : capacity < limit →
      Step capacity c (.mark limit) [] (.failed (.lookahead limit capacity)) c
  | rewind {m limit : Nat} : c.mark = some (m, limit) →
      Step capacity c .rewind [] .done { c with pos := m }
  | rewindRefused : c.mark = none → Step capacity c .rewind [] (.failed .noMark) c

/-- A call, what the reader below answered to it, and what it answered itself. -/
structure Event (ε : Type) where
  call : Call
  fetched : List (Except ε (List Char))
  answer : Answer (ReplayError ε)

/-- What a sequence of calls may do to the cursor. -/
inductive Run (capacity : Nat) : Cursor → List (Event ε) → Cursor → Prop
  | nil (c : Cursor) : Run capacity c [] c
  | cons {c c₁ c₂ : Cursor} {e : Event ε} {es : List (Event ε)} :
      Step capacity c e.call e.fetched e.answer c₁ → Run capacity c₁ es c₂ →
      Run capacity c (e :: es) c₂

theorem Moved.refl {c : Cursor} (hpos : c.pos ≤ c.delivered.length)
    (hmark : ∀ m limit, c.mark = some (m, limit) → c.pos ≤ m + limit) : c.Moved [] 0 c := by
  refine ⟨by simp, rfl, hpos, ?_⟩
  cases hm : c.mark with
  | none => rfl
  | some mark => simp [Option.filter, hmark mark.1 mark.2 hm]

theorem Moved.trans {c c₁ c₂ : Cursor} {ps qs : List (List Char)} {k l : Nat}
    (h : c.Moved ps k c₁) (h' : c₁.Moved qs l c₂) : c.Moved (ps ++ qs) (k + l) c₂ := by
  refine ⟨?_, ?_, h'.inside, ?_⟩
  · rw [h'.delivered, h.delivered, List.flatten_append, List.append_assoc]
  · rw [h'.pos, h.pos, Nat.add_assoc]
  · -- Who is near enough the mark at last was so all the time.
    rw [h'.mark, h.mark, Option.filter_filter]
    congr 1
    funext ⟨m, limit⟩
    have hpos := h'.pos
    by_cases hle : c₂.pos ≤ m + limit
    · have hle₁ : c₁.pos ≤ m + limit := by omega
      simp [hle, hle₁]
    · simp [hle]

theorem Moved.passed_append {c c₁ c₂ : Cursor} {ps qs : List (List Char)} {k l : Nat}
    (h : c.Moved ps k c₁) (h' : c₁.Moved qs l c₂) :
    c.passed c₂ = c.passed c₁ ++ c₁.passed c₂ := by
  have hpos := h.pos
  have hpos' := h'.pos
  have htake : c₂.delivered.take c₁.pos = c₁.delivered.take c₁.pos := by
    rw [h'.delivered, List.take_append_of_le_length h.inside]
  have hsplit : c₂.delivered.take c₂.pos
      = c₁.delivered.take c₁.pos ++ (c₂.delivered.take c₂.pos).drop c₁.pos := by
    rw [← htake]
    conv => lhs; rw [← List.take_append_drop c₁.pos (c₂.delivered.take c₂.pos)]
    rw [List.take_take, Nat.min_eq_left (by omega)]
  have hlen : (c₁.delivered.take c₁.pos).length = c₁.pos := by
    rw [List.length_take]
    exact Nat.min_eq_left h.inside
  rw [passed, hsplit, List.drop_append_of_le_length (by omega)]
  rfl

end Cursor

/-! ## Buffers and cursors -/

/-- The cursor of a buffer: what it has let go, what it keeps for a rewind, and what is pending. -/
inductive Represents (b : ReplayBuffer ρ) : Cursor → Prop
  | unmarked {before : List Char} : b.marked = none →
      Represents b ⟨before ++ b.pending, before.length, none⟩
  | marked {before handed : List Char} {limit : Nat} :
      b.marked = some { limit, handed := handed.toArray } → handed.length ≤ limit →
      Represents b ⟨before ++ handed ++ b.pending, (before ++ handed).length,
        some (before.length, limit)⟩

namespace Represents

variable {b b' : ReplayBuffer ρ} {c : Cursor}

theorem front (h : Represents b c) :
    ∃ front, c.delivered = front ++ b.pending ∧ c.pos = front.length := by
  cases h with
  | unmarked => exact ⟨_, rfl, rfl⟩
  | marked => exact ⟨_, rfl, rfl⟩

theorem inside (h : Represents b c) : c.pos ≤ c.delivered.length := by
  obtain ⟨front, hdelivered, hpos⟩ := h.front
  simp [hdelivered, hpos]

theorem moved_refl (h : Represents b c) : c.Moved [] 0 c := by
  apply Cursor.Moved.refl h.inside
  intro m limit hm
  cases h with
  | unmarked => cases hm
  | marked hmarked hle =>
    obtain ⟨rfl, rfl⟩ := Prod.mk.inj (Option.some.inj hm)
    rw [List.length_append]
    exact Nat.add_le_add_left hle _

/-- **Handing out** moves the cursor, whatever becomes of the mark. -/
theorem hand (h : Represents b c) {ps : List (List Char)} {cs : List Char}
    (hcons : b.pending ++ ps.flatten = cs ++ b'.pending)
    (hmarked : b'.marked = b.marked.bind (ReplayBuffer.Mark.advance cs)) :
    ∃ c', c.Moved ps cs.length c' ∧ c.passed c' = cs ∧ Represents b' c' := by
  have hdelivered (front : List Char) :
      front ++ cs ++ b'.pending = front ++ b.pending ++ ps.flatten := by
    rw [List.append_assoc, ← hcons, List.append_assoc]
  have hpassed (front rest : List Char) :
      ((front ++ cs ++ rest).take (front ++ cs).length).drop front.length = cs := by
    rw [List.take_left, List.drop_left]
  cases h with
  | @unmarked before hnone =>
    rw [hnone] at hmarked
    refine ⟨⟨before ++ cs ++ b'.pending, (before ++ cs).length, none⟩, ?_, hpassed _ _,
      .unmarked hmarked⟩
    exact ⟨hdelivered before, List.length_append, by simp, rfl⟩
  | @marked before handed limit hsome hle =>
    rw [hsome, Option.bind_some, ReplayBuffer.Mark.advance_toArray] at hmarked
    have hlen : (before ++ handed ++ cs).length = before.length + (handed ++ cs).length := by
      rw [List.append_assoc, List.length_append]
    by_cases hkeep : (handed ++ cs).length ≤ limit
    · rw [if_pos hkeep] at hmarked
      refine ⟨⟨before ++ handed ++ cs ++ b'.pending, (before ++ handed ++ cs).length,
        some (before.length, limit)⟩, ?_, hpassed _ _, ?_⟩
      · refine ⟨hdelivered _, List.length_append, by simp, ?_⟩
        have hnear : (before ++ handed ++ cs).length ≤ before.length + limit := by omega
        simp only [Option.filter, hnear, decide_true, if_true]
      · have hrep : Represents b' ⟨before ++ (handed ++ cs) ++ b'.pending,
            (before ++ (handed ++ cs)).length, some (before.length, limit)⟩ := .marked hmarked hkeep
        rwa [← List.append_assoc] at hrep
    · rw [if_neg hkeep] at hmarked
      refine ⟨⟨before ++ handed ++ cs ++ b'.pending, (before ++ handed ++ cs).length, none⟩, ?_,
        hpassed _ _, .unmarked hmarked⟩
      refine ⟨hdelivered _, List.length_append, by simp, ?_⟩
      have hfar : ¬ (before ++ handed ++ cs).length ≤ before.length + limit := by omega
      simp only [Option.filter, hfar, decide_false, Bool.false_eq_true, if_false]

theorem pos_eq (h : Represents b c) (hp : b.pending = []) : c.pos = c.delivered.length := by
  obtain ⟨front, hdelivered, hpos⟩ := h.front
  simp [hdelivered, hpos, hp]

theorem congr (h : Represents b c) (hp : b'.pending = b.pending) (hm : b'.marked = b.marked) :
    Represents b' c := by
  cases h with
  | unmarked hnone =>
    rw [← hp]
    exact .unmarked (hm.trans hnone)
  | marked hsome hle =>
    rw [← hp]
    exact .marked (hm.trans hsome) hle

/-- **One read** hands out the characters at the cursor. -/
theorem read [Reader ρ ε] (h : Represents b c) {n : Nat} {cs : List Char} (hn : 0 < n)
    (hr : Reader.read n b = (.ok cs, b')) :
    ∃ ps c', Reads b.inner ps b'.inner ∧ c.Moved ps cs.length c' ∧ c.passed c' = cs ∧
      (cs = [] → c'.AtEnd ps) ∧ Represents b' c' ∧ b'.capacity = b.capacity := by
  rcases ReplayBuffer.read_cases hn hr with
    ⟨hne, hx, hb'⟩ | ⟨hnil, cs', inner, hr', hx, hb'⟩ | ⟨-, e, inner, -, hx, -⟩
  · obtain rfl := Except.ok.inj hx
    have hcons : b.pending ++ ([] : List (List Char)).flatten = b.pending.take n ++ b'.pending := by
      simp [hb']
    obtain ⟨c', hmoved, hpassed, hrep⟩ := h.hand hcons (by rw [hb'])
    refine ⟨[], c', ?_, hmoved, hpassed, ?_, hrep, by rw [hb']⟩
    · rw [hb']
      exact .refl _
    · intro hcs
      exact absurd (List.take_eq_nil_iff.1 hcs) (by simp [hne]; omega)
  · obtain rfl := Except.ok.inj hx
    have hcons : b.pending ++ [cs].flatten = cs ++ b'.pending := by simp [hb', hnil]
    obtain ⟨c', hmoved, hpassed, hrep⟩ := h.hand hcons (by rw [hb'])
    refine ⟨[cs], c', ?_, hmoved, hpassed, ?_, hrep, by rw [hb']⟩
    · rw [hb']
      exact .one hn hr'
    · intro hcs
      exact ⟨hrep.pos_eq (by rw [hb', hnil]), by simp [hcs, Ended]⟩
  · cases hx

/-- **A read fails** only with the reader, when all that was delivered is passed. -/
theorem fails [Reader ρ ε] (h : Represents b c) {e' : ReplayError ε} (hf : Fails b e' b') :
    ∃ e, e' = .read e ∧ Fails b.inner e b'.inner ∧ c.pos = c.delivered.length ∧
      Represents b' c ∧ b'.capacity = b.capacity := by
  obtain ⟨n, hn, hr⟩ := hf
  rcases ReplayBuffer.read_cases hn hr with
    ⟨-, hx, -⟩ | ⟨-, cs, inner, -, hx, -⟩ | ⟨hnil, e, inner, hr', hx, rfl⟩
  · cases hx
  · cases hx
  · exact ⟨e, Except.error.inj hx, ⟨n, hn, hr'⟩, h.pos_eq hnil, h.congr rfl rfl, rfl⟩

/-- **A run of reads** hands out the characters at the cursor, one piece after the other. -/
theorem reads [Reader ρ ε] (h : Represents b c) {ps : List (List Char)} (hps : Reads b ps b') :
    ∃ qs c', Reads b.inner qs b'.inner ∧ c.Moved qs ps.flatten.length c' ∧
      c.passed c' = ps.flatten ∧ (Ended ps → c'.AtEnd qs) ∧ Represents b' c' ∧
      b'.capacity = b.capacity := by
  induction hps with
  | refl =>
    refine ⟨[], c, .refl _, h.moved_refl, ?_, fun hended => by simp [Ended] at hended, h, rfl⟩
    simp [Cursor.passed]
  | @snoc b₁ b₂ ps n cs _ hn hr ih =>
    obtain ⟨qs, c₁, hqs, hmoved, hpassed, -, hrep, hcap⟩ := ih
    obtain ⟨qs', c₂, hqs', hmoved', hpassed', hend, hrep', hcap'⟩ := hrep.read hn hr
    refine ⟨qs ++ qs', c₂, hqs.trans hqs', ?_, ?_, ?_, hrep', hcap'.trans hcap⟩
    · simpa using hmoved.trans hmoved'
    · simp [hmoved.passed_append hmoved', hpassed, hpassed']
    · intro hended
      obtain ⟨hpos, hlast⟩ := hend (by simpa [Ended] using hended)
      exact ⟨hpos, hlast.append qs⟩

/-- **A mark** is granted exactly up to the capacity, and is set where the cursor is. -/
theorem mark (h : Represents b c) {limit : Nat} {x : Except (ReplayError ε) Unit}
    (hr : b.mark limit = (x, b')) :
    b'.inner = b.inner ∧ b'.capacity = b.capacity ∧
      ((limit ≤ b.capacity ∧ x = .ok () ∧
          Represents b' { c with mark := some (c.pos, limit) }) ∨
        (b.capacity < limit ∧ x = .error (.lookahead limit b.capacity) ∧ Represents b' c)) := by
  unfold ReplayBuffer.mark at hr
  split at hr
  · next hlt =>
    obtain ⟨rfl, rfl⟩ := Prod.mk.inj hr
    exact ⟨rfl, rfl, .inr ⟨hlt, rfl, h⟩⟩
  · next hge =>
    obtain ⟨rfl, rfl⟩ := Prod.mk.inj hr
    refine ⟨rfl, rfl, .inl ⟨Nat.le_of_not_lt hge, rfl, ?_⟩⟩
    obtain ⟨front, hdelivered, hpos⟩ := h.front
    have hrep : Represents { b with marked := some { limit } }
        ⟨front ++ [] ++ b.pending, (front ++ []).length, some (front.length, limit)⟩ :=
      .marked rfl (Nat.zero_le limit)
    simpa [hdelivered, hpos] using hrep

/-- **A rewind** returns to the mark, if there is one, and leaves it there. -/
theorem rewind (h : Represents b c) {x : Except (ReplayError ε) Unit}
    (hr : b.rewind = (x, b')) :
    b'.inner = b.inner ∧ b'.capacity = b.capacity ∧
      ((∃ m limit, c.mark = some (m, limit) ∧ x = .ok () ∧ Represents b' { c with pos := m }) ∨
        (c.mark = none ∧ x = .error .noMark ∧ Represents b' c)) := by
  unfold ReplayBuffer.rewind at hr
  cases h with
  | unmarked hnone =>
    rw [hnone] at hr
    obtain ⟨rfl, rfl⟩ := Prod.mk.inj hr
    exact ⟨rfl, rfl, .inr ⟨rfl, rfl, .unmarked hnone⟩⟩
  | @marked before handed limit hsome hle =>
    rw [hsome] at hr
    obtain ⟨rfl, rfl⟩ := Prod.mk.inj hr
    refine ⟨rfl, rfl, .inl ⟨before.length, limit, rfl, rfl, ?_⟩⟩
    have hrep : Represents { b with pending := handed ++ b.pending, marked := some { limit } }
        ⟨before ++ [] ++ (handed ++ b.pending), (before ++ []).length,
          some (before.length, limit)⟩ :=
      .marked rfl (Nat.zero_le limit)
    simpa using hrep

end Represents

/-! ## Every call -/

/-- Between two states of a buffer over a recorded reader, a call is a step of the cursor, and what
the reader was asked for in it is in the record. -/
def Stepped (b : ReplayBuffer (Recorder ρ ε)) (c : Cursor) (call : Call)
    (a : Answer (ReplayError ε)) (b' : ReplayBuffer (Recorder ρ ε)) : Prop :=
  ∃ fetched c', b'.inner.log = b.inner.log ++ fetched ∧ c.Step b.capacity call fetched a c' ∧
    Represents b' c' ∧ b'.capacity = b.capacity

theorem stepped_of_fails [Reader ρ ε] {b b₁ b' : ReplayBuffer (Recorder ρ ε)} {c c₁ : Cursor}
    {call : Call} {n k : Nat} {ps : List (List Char)} {e' : ReplayError ε}
    (hmost : call.most = some n) (hps : Reads b.inner ps b₁.inner) (hrep : Represents b₁ c₁)
    (hcap : b₁.capacity = b.capacity) (hmoved : c.Moved ps k c₁) (hk : k < n)
    (hcall : k = 0 ∨ call = .skip n) (hf : Fails b₁ e' b') : Stepped b c call (.failed e') b' := by
  obtain ⟨e, rfl, hf', hpos, hrep', hcap'⟩ := hrep.fails hf
  refine ⟨ps.map .ok ++ [.error e], c₁, ?_, .failed hmost hmoved hk hcall hpos, hrep',
    hcap'.trans hcap⟩
  rw [hf'.log, hps.log, List.append_assoc]

/-- **Every call is a step of the cursor.** -/
theorem call_step [Reader ρ ε] {b b' : ReplayBuffer (Recorder ρ ε)} {c : Cursor}
    (h : Represents b c) {call : Call} {a : Answer (ReplayError ε)} (hrun : call.run b = (a, b')) :
    Stepped b c call a b' := by
  cases call with
  | read n =>
    obtain ⟨x, hr, rfl⟩ := Call.answered (p := Reader.read n b) hrun
    by_cases hn : n = 0
    · subst hn
      obtain ⟨rfl, rfl⟩ := Prod.mk.inj (show (Except.ok [], b) = (x, b') from hr)
      have hstep : Cursor.Step (ε := ε) b.capacity c (.read 0) [] (.chars (c.passed c)) c :=
        .read h.moved_refl (Nat.le_refl 0) (by simp)
      refine ⟨[], c, by simp, ?_, h, rfl⟩
      simpa [Answer.of, Cursor.passed] using hstep
    · cases x with
      | ok cs =>
        obtain ⟨ps, c', hps, hmoved, rfl, hend, hrep, hcap⟩ := h.read (Nat.pos_of_ne_zero hn) hr
        refine ⟨_, c', hps.log, .read hmoved (Reader.length_read_le hr) ?_, hrep, hcap⟩
        intro _ hk
        exact hend (List.length_eq_zero_iff.1 hk)
      | error e' =>
        have hn := Nat.pos_of_ne_zero hn
        exact stepped_of_fails rfl (.refl _) h rfl h.moved_refl hn (.inl rfl) ⟨n, hn, hr⟩
  | readChar =>
    obtain ⟨x, hr, rfl⟩ := Call.answered hrun
    rcases readOne_cases hr with ⟨next, rfl, hps⟩ | ⟨e', rfl, hf⟩
    · obtain ⟨qs, c', hqs, hmoved, hpassed, hend, hrep, hcap⟩ := h.reads hps
      rw [List.flatten_cons, List.flatten_nil, List.append_nil] at hmoved hpassed
      refine ⟨_, c', hqs.log, .readChar hmoved hpassed ?_, hrep, hcap⟩
      intro hnone
      apply hend
      rw [hnone]
      rfl
    · exact stepped_of_fails rfl (.refl _) h rfl h.moved_refl Nat.one_pos (.inl rfl) hf
  | skip n =>
    obtain ⟨x, hr, rfl⟩ := Call.answered hrun
    rcases skipBy_cases hr with ⟨ps, rfl, hps, hle, hended⟩ | ⟨e', ps, b₁, rfl, hps, hf, hlt⟩
    · obtain ⟨qs, c', hqs, hmoved, -, hend, hrep, hcap⟩ := h.reads hps
      refine ⟨_, c', hqs.log, .skip hmoved hle ?_, hrep, hcap⟩
      intro hk
      exact hend (hended hk)
    · obtain ⟨qs, c', hqs, hmoved, -, -, hrep, hcap⟩ := h.reads hps
      exact stepped_of_fails rfl hqs hrep hcap hmoved hlt (.inr rfl) hf
  | mark limit =>
    obtain ⟨x, hr, rfl⟩ := Call.answered hrun
    obtain ⟨hinner, hcap, ⟨hle, rfl, hrep⟩ | ⟨hlt, rfl, hrep⟩⟩ := h.mark hr
    · exact ⟨[], _, by simp [hinner], .mark hle, hrep, hcap⟩
    · exact ⟨[], c, by simp [hinner], .markRefused hlt, hrep, hcap⟩
  | rewind =>
    obtain ⟨x, hr, rfl⟩ := Call.answered hrun
    obtain ⟨hinner, hcap, ⟨m, limit, hmark, rfl, hrep⟩ | ⟨hnone, rfl, hrep⟩⟩ := h.rewind hr
    · exact ⟨[], _, by simp [hinner], .rewind hmark, hrep, hcap⟩
    · exact ⟨[], c, by simp [hinner], .rewindRefused hnone, hrep, hcap⟩

/-! ## Every sequence of calls -/

/-- The answers to the calls in turn. -/
def answers [Rewindable σ ε] : List Call → σ → List (Answer ε)
  | [], _ => []
  | call :: calls, s =>
    let (answer, s') := call.run s
    answer :: answers calls s'

/-- The state after the calls in turn. -/
def after [Rewindable σ ε] : List Call → σ → σ
  | [], s => s
  | call :: calls, s => after calls (call.run s).2

/-- The calls in turn, each with what the reader below answered to it and what it answered
itself. -/
def transcript [Reader ρ ε] : List Call → ReplayBuffer (Recorder ρ ε) → List (Cursor.Event ε)
  | [], _ => []
  | call :: calls, b =>
    let (answer, b') := call.run b
    { call, fetched := b'.inner.log.drop b.inner.log.length, answer } :: transcript calls b'

theorem Mirrors.run [Rewindable σ ε] [Rewindable τ ε] {f : σ → τ} (hf : Mirrors f) (call : Call)
    (s : σ) : call.run (f s) = (call.run s).map id f := by
  cases call with
  | read n => rw [Call.run, Call.run, hf.read]; rfl
  | readChar => rw [Call.run, Call.run, hf.readChar]; rfl
  | skip n => rw [Call.run, Call.run, hf.skip]; rfl
  | mark limit => rw [Call.run, Call.run, hf.mark]; rfl
  | rewind => rw [Call.run, Call.run, hf.rewind]; rfl

theorem Mirrors.answers [Rewindable σ ε] [Rewindable τ ε] {f : σ → τ} (hf : Mirrors f)
    (calls : List Call) (s : σ) : answers calls (f s) = CharStream.answers calls s := by
  induction calls generalizing s with
  | nil => rfl
  | cons call calls ih =>
    rw [CharStream.answers, CharStream.answers, hf.run]
    simp only [Prod.map, id, ih]

theorem Mirrors.after [Rewindable σ ε] [Rewindable τ ε] {f : σ → τ} (hf : Mirrors f)
    (calls : List Call) (s : σ) : after calls (f s) = f (CharStream.after calls s) := by
  induction calls generalizing s with
  | nil => rfl
  | cons call calls ih =>
    rw [CharStream.after, CharStream.after, hf.run]
    exact ih _

theorem transcript_answers [Reader ρ ε] (calls : List Call) (b : ReplayBuffer (Recorder ρ ε)) :
    (transcript calls b).map (·.answer) = answers calls b.unrecorded := by
  induction calls generalizing b with
  | nil => rfl
  | cons call calls ih =>
    have hrun := recorder_mirrors.run call b
    show (call.run b).1 :: (transcript calls (call.run b).2).map (·.answer)
      = (call.run b.unrecorded).1 :: answers calls (call.run b.unrecorded).2
    rw [hrun, ih]
    rfl

theorem transcript_represents [Reader ρ ε] (calls : List Call) {b : ReplayBuffer (Recorder ρ ε)}
    {c : Cursor} (h : Represents b c) : ∃ c', c.Run b.capacity (transcript calls b) c' := by
  induction calls generalizing b c with
  | nil => exact ⟨c, .nil c⟩
  | cons call calls ih =>
    obtain ⟨fetched, c₁, hlog, hstep, hrep, hcap⟩ := call_step h (Prod.eta (call.run b)).symm
    obtain ⟨c', hrun⟩ := ih hrep
    have hfetched : (call.run b).2.inner.log.drop b.inner.log.length = fetched := by
      rw [hlog, List.drop_left]
    rw [← hfetched] at hstep
    rw [hcap] at hrun
    exact ⟨c', .cons hstep hrun⟩

/-- **A replay buffer is a cursor with one mark**, for every capacity, every reader and every
sequence of calls: what the reader answers in the course of it makes the answers of the buffer
those of a cursor. -/
theorem replayBuffer_run [Reader ρ ε] (r : ρ) (capacity : Nat) (calls : List Call) :
    ∃ events : List (Cursor.Event ε),
      events = transcript calls { inner := { inner := r }, capacity } ∧
      events.map (·.answer) = answers calls ({ inner := r, capacity } : ReplayBuffer ρ) ∧
      ∃ c, Cursor.Run capacity {} events c :=
  have hrep : Represents ({ inner := { inner := r }, capacity } : ReplayBuffer (Recorder ρ ε)) {} :=
    @Represents.unmarked _ _ [] rfl
  ⟨_, rfl, transcript_answers calls _, transcript_represents calls hrep⟩

end CharStream
