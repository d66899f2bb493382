import CharStream.Proofs.Cursor
import CharStream.Proofs.DecodedText
import CharStream.Proofs.OwnEncodings

/-!
# Reads, single characters and skips, in any order

What a client gets from a plain reader over any sequence of calls. `Supplies` is the promise that
makes this simple: reads take from the front of a text, and a failed read takes nothing, so that it
can be repeated. It says nothing about how often reads fail or how much they bring.

A skip answers with a number only, and one that fails with not even that. So the calls are made on a
recorded reader, and `Pulled.taken` is what the record says that a call took from it; `Pulled.Told`
says how much of it the answer shows.

* `Pull.run_cases` — a call is a run of reads, and its answer tells what they brought.
* `Supplies.pulls_taken` — what any sequence of calls takes is the front of the text.
* `decodedReader_pulls` — for a decoded reader this text is what all the bytes decode to at once.
-/

namespace CharStream

variable {σ ρ ε : Type}

/-! ## Calls -/

/-- A call to a plain reader. -/
inductive Pull where
  | read (n : Nat)
  | readChar
  | skip (n : Nat)
deriving DecidableEq

namespace Pull

/-- Makes the call. -/
def run [Reader σ ε] : Pull → σ → Answer ε × σ
  | .read n, s => (Reader.read n s).map (Answer.of .chars) id
  | .readChar, s => (Reader.readChar s).map (Answer.of .char) id
  | .skip n, s => (Reader.skip n s).map (Answer.of .skipped) id

/-- How many characters the call may take. -/
def most : Pull → Nat
  | .read n => n
  | .readChar => 1
  | .skip n => n

end Pull

/-- A call, its answer, and the characters that it took from the reader. -/
structure Pulled (ε : Type) where
  pull : Pull
  answer : Answer ε
  taken : List Char
deriving DecidableEq

namespace Pulled

/-- The answer tells what the call took: the characters, or how many they are. Only a skip can fail
when it has taken something. -/
inductive Told : Pull → Answer ε → List Char → Prop
  | read {n : Nat} {cs : List Char} : cs.length ≤ n → Told (.read n) (.chars cs) cs
  | readChar (next : Option Char) : Told .readChar (.char next) next.toList
  | skip {n : Nat} {cs : List Char} : cs.length ≤ n → Told (.skip n) (.skipped cs.length) cs
  | failed {pull : Pull} {e : ε} : 0 < pull.most → Told pull (.failed e) []
  | skipFailed {n : Nat} {e : ε} {cs : List Char} :
      cs.length < n → Told (.skip n) (.failed e) cs

/-- The call fell short without failing: it asked for more than it got. -/
def EndReported : Pull → Answer ε → Prop
  | .read n, .chars cs => 0 < n ∧ cs = []
  | .readChar, .char next => next = none
  | .skip n, .skipped k => k < n
  | _, _ => False

/-- The call did not fail. -/
def succeeded (p : Pulled ε) : Bool :=
  match p.answer with
  | .failed _ => false
  | _ => true

/-- The call failed after it had taken something. -/
def FailedMidway (p : Pulled ε) : Prop := p.succeeded = false ∧ p.taken ≠ []

/-- What the calls that did not fail took, one after the other. -/
def consumed (ps : List (Pulled ε)) : List Char := (ps.filter (·.succeeded)).flatMap (·.taken)

theorem consumed_eq_taken {ps : List (Pulled ε)} (h : ∀ p ∈ ps, ¬ p.FailedMidway) :
    consumed ps = ps.flatMap (·.taken) := by
  induction ps with
  | nil => rfl
  | cons p ps ih =>
    have htail : consumed ps = ps.flatMap (·.taken) := by
      apply ih
      intro q hq
      exact h q (List.mem_cons_of_mem p hq)
    by_cases hp : p.succeeded
    · rw [consumed, List.filter_cons_of_pos hp, List.flatMap_cons, List.flatMap_cons, ← htail]
      rfl
    · have hnil : p.taken = [] := by
        apply Decidable.byContradiction
        intro hne
        exact h p List.mem_cons_self ⟨by simpa using hp, hne⟩
      rw [consumed, List.filter_cons_of_neg hp, List.flatMap_cons, hnil, ← htail]
      rfl

end Pulled

/-- The answers to the calls in turn. -/
def pullAnswers [Reader σ ε] : List Pull → σ → List (Answer ε)
  | [], _ => []
  | pull :: pulls, s =>
    let (answer, s') := pull.run s
    answer :: pullAnswers pulls s'

/-- The reader after the calls. -/
def afterPulls [Reader σ ε] : List Pull → σ → σ
  | [], s => s
  | pull :: pulls, s => afterPulls pulls (pull.run s).2

/-- The calls in turn, over a recorded reader. -/
def pulled [Reader ρ ε] : List Pull → Recorder ρ ε → List (Pulled ε)
  | [], _ => []
  | pull :: pulls, r =>
    let (answer, r') := pull.run r
    { pull, answer, taken := delivered (r'.log.drop r.log.length) } :: pulled pulls r'

/-! ## Readers that correspond -/

section Map

variable {τ : Type} [Reader σ ε] [Reader τ ε] {f : σ → τ}

/-- A call does the same on a state and on one that corresponds to it, if each operation does. -/
theorem Pull.run_map (hread : ∀ n s, Reader.read n (f s) = (Reader.read n s).map id f)
    (hchar : ∀ s, Reader.readChar (f s) = (Reader.readChar s).map id f)
    (hskip : ∀ n s, Reader.skip n (f s) = (Reader.skip n s).map id f) (pull : Pull) (s : σ) :
    pull.run (f s) = (pull.run s).map id f := by
  cases pull with
  | read n => exact congrArg (Prod.map (Answer.of .chars) id) (hread n s)
  | readChar => exact congrArg (Prod.map (Answer.of .char) id) (hchar s)
  | skip n => exact congrArg (Prod.map (Answer.of .skipped) id) (hskip n s)

theorem afterPulls_map (h : ∀ pull s, Pull.run pull (f s) = (pull.run s).map id f)
    (pulls : List Pull) (s : σ) : afterPulls pulls (f s) = f (afterPulls pulls s) := by
  induction pulls generalizing s with
  | nil => rfl
  | cons pull pulls ih =>
    rw [afterPulls, h]
    exact ih _

end Map

/-! ## One call -/

/-- The reader supplies the text that `View` sees in its states: a read takes from the front of it,
and nothing only at its end; a read that fails takes nothing. -/
structure Supplies [Reader σ ε] (View : σ → List Char → Prop) : Prop where
  zero (s : σ) : Reader.read 0 s = (.ok [], s)
  read {s s' : σ} {u : List Char} {n : Nat} {cs : List Char} :
    View s u → 0 < n → Reader.read n s = (.ok cs, s') →
      ∃ u', u = cs ++ u' ∧ (cs = [] → u' = []) ∧ View s' u'
  fails {s s' : σ} {u : List Char} {e : ε} : View s u → Fails s e s' → View s' u

theorem Supplies.reads [Reader σ ε] {View : σ → List Char → Prop} (hS : Supplies View) {s s' : σ}
    {u : List Char} {ps : List (List Char)} (hs : View s u) (h : Reads s ps s') :
    ∃ u', u = ps.flatten ++ u' ∧ (Ended ps → u' = []) ∧ View s' u' := by
  induction h with
  | refl => exact ⟨u, rfl, fun h => by simp [Ended] at h, hs⟩
  | @snoc s₁ s₂ ps n cs _ hn hr ih =>
    obtain ⟨u₁, rfl, -, hs₁⟩ := ih
    obtain ⟨u₂, rfl, hend, hs₂⟩ := hS.read hs₁ hn hr
    refine ⟨u₂, by simp, ?_, hs₂⟩
    intro hended
    exact hend (by simpa [Ended] using hended)

/-- **A call is a run of reads**, and perhaps a failing one; its answer tells what they brought. -/
theorem Pull.run_cases [Reader ρ ε] (hzero : ∀ s : ρ, Reader.read 0 s = (.ok [], s)) {pull : Pull}
    {r r' : Recorder ρ ε} {a : Answer ε} (h : pull.run r = (a, r')) :
    ∃ ps, Pulled.Told pull a ps.flatten ∧
      ((Reads r ps r' ∧ (Pulled.EndReported pull a → Ended ps)) ∨
        ∃ e r₁, a = .failed e ∧ Reads r ps r₁ ∧ Fails r₁ e r') := by
  cases pull with
  | read n =>
    obtain ⟨x, hr, rfl⟩ := Call.answered (p := Reader.read n r) h
    by_cases hn : n = 0
    · subst hn
      have hnone : Reader.read 0 r = (.ok [], r) := by
        show Recorder.read 0 r = _
        rw [Recorder.read, hzero]
        rfl
      obtain ⟨rfl, rfl⟩ := Prod.mk.inj (hnone.symm.trans hr)
      exact ⟨[], .read (Nat.le_refl 0), .inl ⟨.refl r, fun h => absurd h.1 (Nat.lt_irrefl 0)⟩⟩
    · have hn := Nat.pos_of_ne_zero hn
      cases x with
      | ok cs =>
        refine ⟨[cs], ?_, .inl ⟨.one hn hr, ?_⟩⟩
        · rw [List.flatten_cons, List.flatten_nil, List.append_nil]
          exact .read (Reader.length_read_le hr)
        · rintro ⟨-, rfl⟩
          rfl
      | error e => exact ⟨[], .failed hn, .inr ⟨e, r, rfl, .refl r, n, hn, hr⟩⟩
  | readChar =>
    obtain ⟨x, hr, rfl⟩ := Call.answered (p := Reader.readChar r) h
    rcases readOne_cases hr with ⟨next, rfl, hps⟩ | ⟨e, rfl, hf⟩
    · refine ⟨[next.toList], ?_, .inl ⟨hps, ?_⟩⟩
      · rw [List.flatten_cons, List.flatten_nil, List.append_nil]
        exact .readChar next
      · intro hend
        rw [show next = none from hend]
        rfl
    · exact ⟨[], .failed Nat.one_pos, .inr ⟨e, r, rfl, .refl r, hf⟩⟩
  | skip n =>
    obtain ⟨x, hr, rfl⟩ := Call.answered (p := Reader.skip n r) h
    rcases skipBy_cases hr with ⟨ps, rfl, hps, hle, hend⟩ | ⟨e, ps, r₁, rfl, hps, hf, hlt⟩
    · exact ⟨ps, .skip hle, .inl ⟨hps, hend⟩⟩
    · exact ⟨ps, .skipFailed hlt, .inr ⟨e, r₁, rfl, hps, hf⟩⟩

/-- **One call** over a reader that supplies a text takes from the front of it. -/
theorem Supplies.pull [Reader ρ ε] {View : ρ → List Char → Prop} (hS : Supplies View) {pull : Pull}
    {r r' : Recorder ρ ε} {a : Answer ε} {u : List Char} (hr : View r.inner u)
    (h : pull.run r = (a, r')) :
    ∃ taken u', taken = delivered (r'.log.drop r.log.length) ∧ u = taken ++ u' ∧
      Pulled.Told pull a taken ∧ (Pulled.EndReported pull a → u' = []) ∧ View r'.inner u' := by
  obtain ⟨ps, htold, ⟨hps, hended⟩ | ⟨e, r₁, rfl, hps, hf⟩⟩ := Pull.run_cases hS.zero h
  · obtain ⟨u', hu, hend, hr'⟩ := hS.reads hr hps.inner
    refine ⟨ps.flatten, u', ?_, hu, htold, fun h => hend (hended h), hr'⟩
    rw [hps.log, List.drop_left, delivered_ok]
  · obtain ⟨u', hu, -, hr₁⟩ := hS.reads hr hps.inner
    refine ⟨ps.flatten, u', ?_, hu, htold, ?_, hS.fails hr₁ hf.inner⟩
    · rw [hf.log, hps.log, List.append_assoc, List.drop_left, delivered_append, delivered_ok]
      simp [delivered]
    · intro hend
      cases pull <;> exact hend.elim

/-! ## Any sequence of calls -/

/-- **What any sequence of calls takes is the front of the text**, and all of it once a call has
fallen short. -/
theorem Supplies.pulls_taken [Reader ρ ε] {View : ρ → List Char → Prop} (hS : Supplies View)
    (pulls : List Pull) {r : Recorder ρ ε} {u : List Char} (hr : View r.inner u) :
    (∀ p ∈ pulled pulls r, Pulled.Told p.pull p.answer p.taken) ∧
      ∃ u', u = (pulled pulls r).flatMap (·.taken) ++ u' ∧
        ((∃ p ∈ pulled pulls r, Pulled.EndReported p.pull p.answer) → u' = []) := by
  induction pulls generalizing r u with
  | nil => exact ⟨by simp [pulled], u, rfl, by simp [pulled]⟩
  | cons pull pulls ih =>
    obtain ⟨taken, u₁, htaken, rfl, htold, hend, hr₁⟩ := hS.pull hr (Prod.eta (pull.run r)).symm
    obtain ⟨htolds, u₂, rfl, hends⟩ := ih hr₁
    have hpulled : pulled (pull :: pulls) r
        = { pull, answer := (pull.run r).1, taken } :: pulled pulls (pull.run r).2 := by
      rw [htaken]
      rfl
    rw [hpulled]
    refine ⟨List.forall_mem_cons.2 ⟨htold, htolds⟩, u₂, ?_, ?_⟩
    · rw [List.flatMap_cons, List.append_assoc]
    · rintro ⟨p, hp, hshort⟩
      rcases List.mem_cons.1 hp with rfl | hp
      · exact (List.append_eq_nil_iff.1 (hend hshort)).2
      · exact hends ⟨p, hp, hshort⟩

/-! ## The decoded reader -/

namespace DecodedReader

variable {L : EncodingLibrary}

/-- What a client may still get: what is pending, and then what is due. -/
def Owes (r : DecodedReader L) (u : List Char) : Prop :=
  ∃ pending, r.Stores pending ∧ u = pending ++ r.due

theorem supplies (hL : L.Streams) (hroom : L.Suffices chunkSize) : Supplies (Owes (L := L)) where
  zero _ := rfl
  read {r r' u n cs} h hn hr := by
    obtain ⟨pending, hstores, rfl⟩ := h
    cases read_cases hL hroom hn hstores hr with
    | chars hstores' _ hdue =>
      refine ⟨_, hdue, ?_, _, hstores', rfl⟩
      intro hnil
      cases hnil
    | ended hpending hlater hstop hstores' hlater' hstop' =>
      have hnone : pending ++ r.due = [] := by
        rw [hpending, due_eq_later hstop, hlater, List.append_nil]
      refine ⟨[], hnone, fun _ => rfl, [], hstores', ?_⟩
      rw [due_eq_later hstop', hlater', List.append_nil]
  fails {r r' u f} h hf := by
    obtain ⟨pending, hstores, rfl⟩ := h
    obtain ⟨n, hn, hr⟩ := hf
    cases read_cases hL hroom hn hstores hr with
    | failed hpending _ _ hstores' hdue => exact ⟨[], hstores', by rw [hpending, hdue]⟩

theorem run_recorded (pull : Pull) (r : Recorder (DecodedReader L) ByteFault) :
    pull.run r.inner = (pull.run r).map id Recorder.inner := by
  have hread (n : Nat) (r : Recorder (DecodedReader L) ByteFault) :
      Reader.read n r.inner = (Reader.read n r).map id Recorder.inner := rfl
  exact Pull.run_map hread (readOne_map hread) (fun n => skipFrom_map hread n 0) pull r

theorem pulled_answers (pulls : List Pull) (r : Recorder (DecodedReader L) ByteFault) :
    (pulled pulls r).map (·.answer) = pullAnswers pulls r.inner := by
  induction pulls generalizing r with
  | nil => rfl
  | cons pull pulls ih =>
    show (pull.run r).1 :: (pulled pulls (pull.run r).2).map (·.answer)
      = (pull.run r.inner).1 :: pullAnswers pulls (pull.run r.inner).2
    rw [run_recorded, ih]
    rfl

theorem afterPulls_recorded (pulls : List Pull) (r : Recorder (DecodedReader L) ByteFault) :
    afterPulls pulls r.inner = (afterPulls pulls r).inner :=
  afterPulls_map run_recorded pulls r

end DecodedReader

/-- **Neither cuts nor faults show in the text.** What any calls take is the front of what the bytes
before the first empty read decode to at once, and all of it once a call has fallen short. The
answers tell what was taken, but for skips that fail midway. -/
theorem decodedReader_pulls {L : EncodingLibrary} (hL : L.Streams)
    (hroom : L.Suffices DecodedReader.chunkSize) (script : ByteScript) (encoding : L.Encoding)
    (pulls : List Pull) :
    let text := L.decodeAll (L.newDecoder encoding) script.bytes
    let ps := pulled pulls { inner := DecodedReader.ofEncoding script encoding }
    ps.map (·.answer) = pullAnswers pulls (DecodedReader.ofEncoding script encoding) ∧
      (∀ p ∈ ps, Pulled.Told p.pull p.answer p.taken) ∧
      ps.flatMap (·.taken) <+: text ∧
      ((∃ p ∈ ps, Pulled.EndReported p.pull p.answer) → ps.flatMap (·.taken) = text) ∧
      ((∀ p ∈ ps, ¬ p.FailedMidway) → Pulled.consumed ps = ps.flatMap (·.taken)) := by
  intro text ps
  have howes : (DecodedReader.ofEncoding script encoding).Owes text := ⟨[], ⟨[], rfl, rfl⟩, rfl⟩
  obtain ⟨htold, u, hu, hend⟩ :=
    (DecodedReader.supplies hL hroom).pulls_taken pulls
      (r := { inner := DecodedReader.ofEncoding script encoding }) howes
  refine ⟨DecodedReader.pulled_answers pulls _, htold, ⟨u, hu.symm⟩, ?_,
    Pulled.consumed_eq_taken⟩
  intro hshort
  rw [hend hshort, List.append_nil] at hu
  exact hu.symm

/-- A character that is cut by a read, an interruption and a fault there, and bytes that come after
the end. -/
theorem decodedReader_pulls_cut :
    let script : ByteScript := [.bytes [0x61, 0xC3], .fault ⟨.interrupted, "again"⟩,
      .fault ⟨.other, "gone"⟩, .bytes [0xA9, 0x62], .bytes [], .bytes [0x7A]]
    let start : DecodedReader .own := .ofEncoding script .utf8
    let pulls : List Pull := [.read 2, .skip 1, .readChar, .skip 5, .read 1]
    let ps := pulled pulls { inner := start }
    (EncodingLibrary.own.Streams ∧ EncodingLibrary.own.Suffices DecodedReader.chunkSize) ∧
      pullAnswers pulls start
        = [.chars ['a'], .failed ⟨.other, "gone"⟩, .char 'é', .skipped 1, .chars []] ∧
      (∃ p ∈ ps, Pulled.EndReported p.pull p.answer) ∧ (∀ p ∈ ps, ¬ p.FailedMidway) ∧
      Pulled.consumed ps = ['a', 'é', 'b'] := by
  intro script start pulls ps
  have hps : ps = [⟨.read 2, .chars ['a'], ['a']⟩, ⟨.skip 1, .failed ⟨.other, "gone"⟩, []⟩,
      ⟨.readChar, .char 'é', ['é']⟩, ⟨.skip 5, .skipped 1, ['b']⟩, ⟨.read 1, .chars [], []⟩] := by
    decide +kernel
  have hL := EncodingLibrary.own_streams
  have hroom := EncodingLibrary.own_suffices DecodedReader.chunkSize
  obtain ⟨hanswers, -, -, hwhole, hconsumed⟩ := decodedReader_pulls hL hroom script .utf8 pulls
  have hend : ∃ p ∈ ps, Pulled.EndReported p.pull p.answer := by
    rw [hps]
    exact ⟨_, .tail _ (.tail _ (.tail _ (.tail _ (.head _)))), Nat.one_pos, rfl⟩
  have hmid : ∀ p ∈ ps, ¬ p.FailedMidway := by
    rw [hps]
    simp [Pulled.FailedMidway, Pulled.succeeded]
  refine ⟨⟨hL, hroom⟩, ?_, hend, hmid, ?_⟩
  · rw [← hanswers]
    show ps.map (·.answer) = _
    rw [hps]
    rfl
  · rw [hconsumed hmid, hwhole hend]
    decide +kernel

end CharStream
