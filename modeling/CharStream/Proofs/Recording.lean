import CharStream.Line.Scanner
import CharStream.Proofs.Delivers
import CharStream.ReplayBuffer

/-!
# What was fetched so far

A claim about the characters that a reader has delivered needs them in the state. `Recorder` puts
them there: it passes every read on, and keeps the answers.

To record makes no difference to what is built on the reader. `Mirrors` says of two sources that
every call answers the same on both and leads to states that correspond again;
`recorder_mirrors` says it of replay buffers with and without a record, and `Mirrors.nextLine` that
a line scanner cannot tell them apart either.
-/

namespace CharStream

variable {σ τ ρ ε : Type}

/-! ## The record -/

/-- The reader `inner`, and its answers to all reads of positive length, the oldest first. -/
structure Recorder (ρ ε : Type) where
  inner : ρ
  log : List (Except ε (List Char)) := []

/-- The characters in a record of answers. -/
def delivered (log : List (Except ε (List Char))) : List Char :=
  log.flatMap fun
    | .ok cs => cs
    | .error _ => []

@[simp] theorem delivered_append (log log' : List (Except ε (List Char))) :
    delivered (log ++ log') = delivered log ++ delivered log' := by
  simp [delivered]

@[simp] theorem delivered_ok (ps : List (List Char)) :
    delivered (ps.map (Except.ok (ε := ε))) = ps.flatten := by
  simp [delivered, List.flatMap_map, List.flatMap_id']

namespace Recorder

/-- A read, which is recorded unless it asks for nothing. -/
def read [Reader ρ ε] (n : Nat) (r : Recorder ρ ε) : Except ε (List Char) × Recorder ρ ε :=
  let (a, inner) := Reader.read n r.inner
  (a, { inner, log := if n = 0 then r.log else r.log ++ [a] })

instance [Reader ρ ε] : Reader (Recorder ρ ε) ε where
  read := read
  length_read_le := by
    intro n r cs r' h
    simp only [read, Prod.mk.injEq] at h
    exact Reader.length_read_le (Prod.ext h.1 rfl)

theorem log_read [Reader ρ ε] {n : Nat} {r r' : Recorder ρ ε} {a : Except ε (List Char)}
    (hn : 0 < n) (h : Reader.read n r = (a, r')) : r'.log = r.log ++ [a] := by
  obtain ⟨rfl, rfl⟩ := Prod.mk.inj (show Recorder.read n r = (a, r') from h)
  exact if_neg (Nat.ne_of_gt hn)

end Recorder

theorem Reads.log [Reader ρ ε] {r r' : Recorder ρ ε} {ps : List (List Char)} (h : Reads r ps r') :
    r'.log = r.log ++ ps.map .ok := by
  induction h with
  | refl => simp
  | snoc _ hn hr ih => rw [Recorder.log_read hn hr, ih]; simp

theorem Fails.log [Reader ρ ε] {r r' : Recorder ρ ε} {e : ε} (h : Fails r e r') :
    r'.log = r.log ++ [.error e] := by
  obtain ⟨n, hn, hr⟩ := h
  exact Recorder.log_read hn hr

theorem Recorder.read_inner [Reader ρ ε] {n : Nat} {r r' : Recorder ρ ε}
    {a : Except ε (List Char)} (h : Reader.read n r = (a, r')) :
    Reader.read n r.inner = (a, r'.inner) := by
  obtain ⟨rfl, rfl⟩ := Prod.mk.inj (show Recorder.read n r = (a, r') from h)
  rfl

theorem Reads.inner [Reader ρ ε] {r r' : Recorder ρ ε} {ps : List (List Char)}
    (h : Reads r ps r') : Reads r.inner ps r'.inner := by
  induction h with
  | refl => exact .refl _
  | snoc _ hn hr ih => exact .snoc ih hn (Recorder.read_inner hr)

theorem Fails.inner [Reader ρ ε] {r r' : Recorder ρ ε} {e : ε} (h : Fails r e r') :
    Fails r.inner e r'.inner := by
  obtain ⟨n, hn, hr⟩ := h
  exact ⟨n, hn, Recorder.read_inner hr⟩

theorem NeverFails.recorder [Reader ρ ε] {r : Recorder ρ ε} (h : NeverFails r.inner) :
    NeverFails r :=
  fun ps r' e r'' hps hf => h ps r'.inner e r''.inner hps.inner hf.inner

/-! ## Recording makes no difference -/

/-- Every call answers on `f s` as on `s`, and leads to corresponding states. -/
structure Mirrors [Rewindable σ ε] [Rewindable τ ε] (f : σ → τ) : Prop where
  read (n : Nat) (s : σ) : Reader.read n (f s) = (Reader.read n s).map id f
  readChar (s : σ) : Reader.readChar (f s) = (Reader.readChar s).map id f
  skip (n : Nat) (s : σ) : Reader.skip n (f s) = (Reader.skip n s).map id f
  lookahead (s : σ) : Rewindable.lookahead (f s) = Rewindable.lookahead s
  mark (n : Nat) (s : σ) : Rewindable.mark n (f s) = (Rewindable.mark n s).map id f
  rewind (s : σ) : Rewindable.rewind (f s) = (Rewindable.rewind s).map id f

section Derived

variable {read : Nat → σ → Except ε (List Char) × σ} {read' : Nat → τ → Except ε (List Char) × τ}
  {f : σ → τ}

theorem readOne_map (h : ∀ n s, read' n (f s) = (read n s).map id f) (s : σ) :
    readOne read' (f s) = (readOne read s).map id f := by
  unfold readOne
  rw [h]
  rcases read 1 s with ⟨x, s₁⟩
  match x with
  | .error e => rfl
  | .ok [] => rfl
  | .ok [c] => rfl
  | .ok (_ :: _ :: _) => rfl

theorem skipFrom_map (h : ∀ n s, read' n (f s) = (read n s).map id f) (n done : Nat) (s : σ) :
    skipFrom read' n done (f s) = (skipFrom read n done s).map id f := by
  fun_induction skipFrom read n done s with
  | case1 done s hlt e s₁ hr =>
    rw [skipFrom, if_pos hlt, h, hr]
    rfl
  | case2 done s hlt s₁ hr =>
    rw [skipFrom, if_pos hlt, h, hr]
    rfl
  | case3 done s hlt c cs s₁ hr ih =>
    rw [skipFrom, if_pos hlt, h, hr]
    exact ih
  | case4 done s hge =>
    rw [skipFrom, if_neg hge]
    rfl

end Derived

/-- The buffer without the record of its reader. -/
def ReplayBuffer.unrecorded (b : ReplayBuffer (Recorder ρ ε)) : ReplayBuffer ρ :=
  { b with inner := b.inner.inner }

/-- The buffer with a record of its reader that starts now. -/
def ReplayBuffer.recorded (b : ReplayBuffer ρ) : ReplayBuffer (Recorder ρ ε) :=
  { b with inner := { inner := b.inner } }

theorem ReplayBuffer.read_unrecorded [Reader ρ ε] (n : Nat) (b : ReplayBuffer (Recorder ρ ε)) :
    b.unrecorded.read n = (b.read n).map id unrecorded := by
  unfold read
  by_cases hn : n = 0
  · rw [if_pos hn, if_pos hn]
    rfl
  · rw [if_neg hn, if_neg hn]
    by_cases hp : b.pending.isEmpty
    · rw [if_pos (show b.unrecorded.pending.isEmpty from hp), if_pos hp]
      rcases hr : Reader.read n b.inner.inner with ⟨x, inner⟩
      have hrec : ∃ log, Reader.read n b.inner = (x, { inner, log }) := by
        refine ⟨if n = 0 then b.inner.log else b.inner.log ++ [x], ?_⟩
        show Recorder.read n b.inner = _
        simp [Recorder.read, hr]
      obtain ⟨log, hrec⟩ := hrec
      rw [show Reader.read n b.unrecorded.inner = (x, inner) from hr, hrec]
      cases x <;> rfl
    · rw [if_neg (show ¬ b.unrecorded.pending.isEmpty from hp), if_neg hp]
      rfl

theorem recorder_mirrors [Reader ρ ε] :
    Mirrors (ReplayBuffer.unrecorded : ReplayBuffer (Recorder ρ ε) → ReplayBuffer ρ) where
  read := ReplayBuffer.read_unrecorded
  readChar := readOne_map ReplayBuffer.read_unrecorded
  skip n := skipFrom_map ReplayBuffer.read_unrecorded n 0
  lookahead b := rfl
  mark n b := by
    show ReplayBuffer.mark n b.unrecorded = (ReplayBuffer.mark n b).map id ReplayBuffer.unrecorded
    unfold ReplayBuffer.mark
    by_cases hlt : b.capacity < n
    · rw [if_pos hlt]
      exact if_pos hlt
    · rw [if_neg hlt]
      exact if_neg hlt
  rewind b := by
    show b.unrecorded.rewind = b.rewind.map id ReplayBuffer.unrecorded
    obtain ⟨inner, capacity, pending, marked⟩ := b
    cases marked <;> rfl

section Scanner

variable [Rewindable σ ε] [Rewindable τ ε] {f : σ → τ}

theorem Mirrors.scan (hf : Mirrors f) (m pos : Nat) (buf : Array Char) (s : σ) :
    Line.scan m pos buf (f s) = (Line.scan m pos buf s).map id (Prod.map id f) := by
  fun_induction Line.scan m pos buf s with
  | case1 pos buf s hlt e s₁ hr =>
    rw [Line.scan, if_pos hlt, hf.read, hr]
    rfl
  | case2 pos buf s hlt s₁ hr =>
    rw [Line.scan, if_pos hlt, hf.read, hr]
    rfl
  | case3 pos buf s hlt c cs s₁ hr buf₁ hdrop =>
    rename_i ih
    rw [Line.scan, if_pos hlt, hf.read, hr]
    simp only [Prod.map, id, hdrop]
    exact ih
  | case4 pos buf s hlt c cs s₁ hr buf₁ hdrop e s₂ =>
    rename_i hc
    rw [Line.scan, if_pos hlt, hf.read, hr]
    simp only [Prod.map, id, hdrop, hf.readChar, hc]
    rfl
  | case5 pos buf s hlt c cs s₁ hr buf₁ length hdrop next s₂ =>
    rename_i hc
    rw [Line.scan, if_pos hlt, hf.read, hr]
    simp only [Prod.map, id, hdrop, hf.readChar, hc]
    rfl
  | case6 pos buf s hlt c cs s₁ hr buf₁ length rest =>
    rename_i hdrop
    rw [Line.scan, if_pos hlt, hf.read, hr]
    simp only [Prod.map, id, hdrop]
    rfl
  | case7 pos buf s hlt c cs s₁ hr buf₁ length hne hcr =>
    rename_i hcrlf
    rw [Line.scan, if_pos hlt, hf.read, hr]
    simp only [Prod.map, id]
    rfl
  | case8 pos buf s hge =>
    rw [Line.scan, if_neg hge]
    rfl

theorem Mirrors.find (hf : Mirrors f) (o : LineOptions) (fuel : Nat) (spilled : String)
    (buf : Array Char) (s : σ) :
    Line.find o fuel spilled buf (f s)
      = (Line.find o fuel spilled buf s).map (Prod.map id (Prod.map id f)) := by
  induction fuel generalizing spilled buf s with
  | zero => rfl
  | succ fuel ih =>
    rw [Line.find, Line.find, hf.mark]
    rcases Rewindable.mark o.readAhead s with ⟨e | ⟨⟩, s₁⟩
    · rfl
    · simp only [Prod.map, id, hf.scan]
      rcases Line.scan o.maxLineLength 0 buf s₁ with ⟨e | y, buf₁, s₂⟩
      · rfl
      · cases y with
        | terminated length taken => rfl
        | exhausted length =>
          simp only
          split <;> rfl
        | full => exact ih _ _ _

theorem Mirrors.take (hf : Mirrors f) (found : Line.Found) (buf : Array Char) (s : σ) :
    found.take buf (f s) = (found.take buf s).map id f := by
  rw [Line.Found.take, Line.Found.take, hf.rewind]
  rcases Rewindable.rewind s with ⟨e | ⟨⟩, s₁⟩
  · rfl
  · simp only [Prod.map, id, hf.skip]
    rcases Reader.skip found.taken s₁ with ⟨e | k, s₂⟩
    · rfl
    · simp only
      split <;> rfl

/-- The same scanner over the corresponding source. -/
def LineScanner.mapSource (f : σ → τ) (w : LineScanner σ) : LineScanner τ :=
  { w with source := f w.source }

theorem Mirrors.nextLine (hf : Mirrors f) (fuel : Nat) (w : LineScanner σ) :
    (w.mapSource f).nextLine fuel = (w.nextLine fuel).map (Prod.map id (·.mapSource f)) := by
  unfold LineScanner.nextLine LineScanner.mapSource
  simp only [hf.lookahead, hf.find]
  by_cases hlt : Rewindable.lookahead w.source < w.options.readAhead
  · rw [if_pos hlt, if_pos hlt]
    rfl
  · rw [if_neg hlt, if_neg hlt]
    rcases Line.find w.options fuel "" w.buffer w.source with _ | ⟨e | _ | found, buf, s⟩
    · rfl
    · rfl
    · rfl
    · simp only [Option.map_some, Prod.map, id, hf.take]

end Scanner

end CharStream
