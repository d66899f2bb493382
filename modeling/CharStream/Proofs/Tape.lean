import CharStream.Proofs.Pulls
import CharStream.Proofs.ReplayBuffer
import CharStream.Proofs.Scan
import Mathlib.Data.Stream.Init

/-!
# Unread text

What a reader has not handed out yet may go on without end, and the end of the stream may be
reported in the midst of it. So unread text is a *tape*: characters, and a gap wherever the end is
reported. A text that is over is a tape of gaps.

**Readers.** `Yields` says that a reader takes what it brings from the front of its tape, and that a
read that fails takes nothing. With `ReportsEnds` a read that brings nothing takes a gap. Both hold
of a replay buffer if they hold of the reader in it, and of any reader that supplies a text.

**Lines.** `LineAt u l v` says that `l` is the first line of the tape `u` and that `v` is left
behind it; a gap ends a line too. There is at most one such line (`LineAt.unique`).
-/

namespace CharStream

open Line (Unbroken)

variable {σ ρ ε : Type}

/-! ## Tapes -/

/-- Characters, and gaps where the end of the stream is reported. -/
abbrev Tape := Stream' (Option Char)

namespace Tape

/-- Characters in front of a tape. -/
def before (cs : List Char) (u : Tape) : Tape := cs.map some ++ₛ u

@[simp] theorem before_nil (u : Tape) : before [] u = u := rfl

theorem before_append (cs ds : List Char) (u : Tape) :
    before (cs ++ ds) u = before cs (before ds u) := by
  rw [before, List.map_append, Stream'.append_append_stream]
  rfl

theorem head_before (c : Char) (cs : List Char) (u : Tape) : (before (c :: cs) u).head = some c :=
  rfl

theorem tail_before (c : Char) (cs : List Char) (u : Tape) :
    (before (c :: cs) u).tail = before cs u := rfl

theorem drop_before (cs : List Char) (u : Tape) : (before cs u).drop cs.length = u := by
  rw [before, ← List.length_map some]
  exact Stream'.drop_append_stream _ u

/-- A gap in front of a tape. -/
def gap (u : Tape) : Tape := [none] ++ₛ u

/-! ## Lines of a tape -/

/-- The tape begins with the end of a line: a break, or a gap. -/
def AtStop (u : Tape) : Prop := ∀ c, u.head = some c → c = '\r' ∨ c = '\n'

/-- What is left behind the end of a line. A carriage return goes with the line feed after it. To
know that there is none, the end may have to be reported, and then the gap is gone too. -/
def behind (u : Tape) : Tape :=
  if u.head = some '\r' ∧ (u.tail.head = some '\n' ∨ u.tail.head = none) then u.tail.tail
  else u.tail

theorem behind_gap (u : Tape) : u.gap.behind = u := by
  rw [behind, if_neg]
  · rfl
  · rintro ⟨hhead, -⟩
    cases hhead

theorem atStop_gap (u : Tape) : u.gap.AtStop := by
  intro c hc
  cases hc

/-- The line content in front of a tape and the tape behind it are told apart by where it stops. -/
theorem before_unique {cs ds : List Char} {u v : Tape} (hcs : Unbroken cs) (hu : u.AtStop)
    (hds : Unbroken ds) (hv : v.AtStop) (h : before cs u = before ds v) : cs = ds ∧ u = v := by
  have hstop {c : Char} {cs : List Char} {u v : Tape} (hcs : Unbroken (c :: cs)) (hu : u.AtStop)
      (h : u = before (c :: cs) v) : False := by
    obtain ⟨hcr, hlf⟩ := hcs c List.mem_cons_self
    exact (hu c (by rw [h, head_before])).elim hcr hlf
  induction cs generalizing ds with
  | nil =>
    cases ds with
    | nil => exact ⟨rfl, h⟩
    | cons d ds => exact (hstop hds hu h).elim
  | cons c cs ih =>
    cases ds with
    | nil => exact (hstop hcs hv h.symm).elim
    | cons d ds =>
      have hhead := congrArg Stream'.head h
      have htail := congrArg Stream'.tail h
      rw [head_before, head_before] at hhead
      rw [tail_before, tail_before] at htail
      have hcs' : Unbroken cs := fun c hc => hcs c (List.mem_cons_of_mem _ hc)
      have hds' : Unbroken ds := fun d hd => hds d (List.mem_cons_of_mem _ hd)
      obtain ⟨rfl, huv⟩ := ih hcs' hds' htail
      exact ⟨by rw [Option.some.inj hhead], huv⟩

end Tape

open Tape (before)

/-- The first line of a tape, and what is left behind it. There is no line, and a gap is gone, where
the tape begins with a gap. -/
inductive LineAt : Tape → Option String → Tape → Prop
  | line {cs : List Char} {u : Tape} : Unbroken cs → u.AtStop → ¬ (cs = [] ∧ u.head = none) →
      LineAt (before cs u) (some (String.ofList cs)) u.behind
  | nothing {u : Tape} : LineAt u.gap none u

theorem LineAt.split {u v : Tape} {l : Option String} (h : LineAt u l v) :
    ∃ cs w, Unbroken cs ∧ w.AtStop ∧ u = before cs w ∧ v = w.behind ∧
      l = if cs = [] ∧ w.head = none then none else some (String.ofList cs) := by
  cases h with
  | @line cs w hun hstop hne => exact ⟨cs, w, hun, hstop, rfl, rfl, (if_neg hne).symm⟩
  | nothing => exact ⟨[], v.gap, Line.unbroken_nil, v.atStop_gap, rfl, v.behind_gap.symm, rfl⟩

/-- **A tape has at most one first line.** -/
theorem LineAt.unique {u v v' : Tape} {l l' : Option String} (h : LineAt u l v)
    (h' : LineAt u l' v') : l = l' ∧ v = v' := by
  obtain ⟨cs, w, hun, hstop, rfl, rfl, rfl⟩ := h.split
  obtain ⟨ds, w', hun', hstop', hsame, rfl, rfl⟩ := h'.split
  obtain ⟨rfl, rfl⟩ := Tape.before_unique hun hstop hun' hstop' hsame
  exact ⟨rfl, rfl⟩

/-! ## Readers -/

/-- The reader takes what it brings from the front of the tape that `View` sees in its states, and a
read that fails takes nothing. -/
structure Yields [Reader σ ε] (View : σ → Tape → Prop) : Prop where
  brings {s s' : σ} {u : Tape} {n : Nat} {c : Char} {cs : List Char} :
    View s u → 0 < n → Reader.read n s = (.ok (c :: cs), s') →
      ∃ u', u = before (c :: cs) u' ∧ View s' u'
  fails {s s' : σ} {u : Tape} {e : ε} : View s u → Fails s e s' → View s' u

/-- A read that brings nothing takes a gap. -/
structure ReportsEnds [Reader σ ε] (View : σ → Tape → Prop) : Prop where
  gap {s s' : σ} {u : Tape} {n : Nat} :
    View s u → 0 < n → Reader.read n s = (.ok [], s') → ∃ u' : Tape, u = u'.gap ∧ View s' u'

/-- **Runs of reads** that bring something take it from the front of the tape. -/
theorem Yields.run [Reader σ ε] {View : σ → Tape → Prop} (hV : Yields View) {s s' : σ} {u : Tape}
    {ps : List (List Char)} (h : Brings s ps s') (hs : View s u) :
    ∃ u', u = before ps.flatten u' ∧ View s' u' := by
  obtain ⟨hreads, hne⟩ := h
  induction hreads with
  | refl => exact ⟨u, rfl, hs⟩
  | @snoc s₁ s₂ ps n cs _ hn hr ih =>
    have hps : ∀ p ∈ ps, p ≠ [] := fun p hp => hne p (List.mem_append_left _ hp)
    have hcs : cs ≠ [] := hne cs (List.mem_append_right _ (List.mem_singleton_self cs))
    obtain ⟨c, cs, rfl⟩ := List.exists_cons_of_ne_nil hcs
    obtain ⟨u₁, rfl, hs₁⟩ := ih hps
    obtain ⟨u₂, rfl, hs₂⟩ := hV.brings hs₁ hn hr
    refine ⟨u₂, ?_, hs₂⟩
    rw [← Tape.before_append]
    simp

/-! ## Replay buffers -/

namespace ReplayBuffer

/-- What a replay buffer has not handed out: what is pending, and then the tape of its reader. -/
def Unread (View : ρ → Tape → Prop) (b : ReplayBuffer ρ) (u : Tape) : Prop :=
  ∃ v, View b.inner v ∧ u = before b.pending v

variable [Reader ρ ε] {View : ρ → Tape → Prop}

theorem unread_yields (hV : Yields View) : Yields (Unread View) where
  brings {b b' u n c cs} h hn hr := by
    obtain ⟨v, hv, rfl⟩ := h
    rcases read_cases hn hr with
      ⟨-, hx, rfl⟩ | ⟨hnil, ds, inner, hr', hx, rfl⟩ | ⟨-, e, _, -, hx, -⟩
    · refine ⟨before (b.pending.drop n) v, ?_, v, hv, rfl⟩
      rw [Except.ok.inj hx, ← Tape.before_append, List.take_append_drop]
    · obtain rfl := Except.ok.inj hx
      obtain ⟨v', rfl, hv'⟩ := hV.brings hv hn hr'
      exact ⟨v', by rw [hnil]; rfl, v', hv', by rw [hnil]; rfl⟩
    · cases hx
  fails {b b' u e} h hf := by
    obtain ⟨v, hv, rfl⟩ := h
    obtain ⟨n, hn, hr⟩ := hf
    rcases read_cases hn hr with ⟨-, hx, -⟩ | ⟨-, ds, inner, -, hx, -⟩ | ⟨-, e', inner, hr', -, rfl⟩
    · cases hx
    · cases hx
    · exact ⟨v, hV.fails hv ⟨n, hn, hr'⟩, rfl⟩

theorem unread_reportsEnds (hE : ReportsEnds View) : ReportsEnds (Unread View) where
  gap {b b' u n} h hn hr := by
    obtain ⟨v, hv, rfl⟩ := h
    rcases read_cases hn hr with
      ⟨hne, hx, -⟩ | ⟨hnil, ds, inner, hr', hx, rfl⟩ | ⟨-, e, _, -, hx, -⟩
    · rcases List.take_eq_nil_iff.1 (Except.ok.inj hx).symm with rfl | hnil
      · exact absurd hn (Nat.lt_irrefl 0)
      · exact absurd hnil hne
    · obtain rfl := Except.ok.inj hx
      obtain ⟨v', rfl, hv'⟩ := hE.gap hv hn hr'
      exact ⟨v', by rw [hnil]; rfl, v', hv', by rw [hnil]; rfl⟩
    · cases hx

end ReplayBuffer

/-! ## Readers that supply a text -/

/-- The tape of a text that is over behind its last character. -/
def Tape.ofText (cs : List Char) : Tape := before cs (.const none)

/-- The tape of the text that is seen in a state. -/
def OnTape (View : σ → List Char → Prop) (s : σ) (u : Tape) : Prop :=
  ∃ cs, View s cs ∧ u = Tape.ofText cs

theorem Supplies.yields [Reader σ ε] {View : σ → List Char → Prop} (hS : Supplies View) :
    Yields (OnTape View) where
  brings {s s' u n c cs} h hn hr := by
    obtain ⟨ds, hs, rfl⟩ := h
    obtain ⟨ds', rfl, -, hs'⟩ := hS.read hs hn hr
    exact ⟨Tape.ofText ds', Tape.before_append _ _ _, ds', hs', rfl⟩
  fails {s s' u e} h hf := by
    obtain ⟨ds, hs, rfl⟩ := h
    exact ⟨ds, hS.fails hs hf, rfl⟩

theorem Supplies.reportsEnds [Reader σ ε] {View : σ → List Char → Prop} (hS : Supplies View) :
    ReportsEnds (OnTape View) where
  gap {s s' u n} h hn hr := by
    obtain ⟨ds, hs, rfl⟩ := h
    obtain ⟨ds', rfl, hnone, hs'⟩ := hS.read hs hn hr
    obtain rfl := hnone rfl
    exact ⟨Tape.ofText [], Stream'.const_eq none, [], hs', rfl⟩

end CharStream
