import CharStream.Proofs.NextLine
import CharStream.Proofs.Recording

/-!
# No character is lost between lines and reads

To find the end of a line a scanner reads far ahead, rewinds, and skips. What it has read too much
is left in the replay buffer, for whatever call comes next: another line, a read, or a skip. Over a
reader that does not fail, the account is right after every call of any sequence of them: all that
was fetched is what the calls have taken, in order, and then what is pending.

`Took` says what one call takes, `draw_took` proves it for every call, and `scanner_conserves` for
every sequence.
-/

namespace CharStream

open Line (Unbroken Terminator)

variable {σ τ ρ ε : Type}

/-! ## Calls -/

/-- A call that takes something from a line scanner. -/
inductive Draw where
  | line
  | read (n : Nat)
  | readChar
  | skip (n : Nat)
deriving DecidableEq

/-- What such a call answers. -/
inductive Drawn (ε : Type) where
  | line (l : Option String)
  | chars (cs : List Char)
  | char (c : Option Char)
  | skipped (k : Nat)
  | lineFailed (e : LineError ε)
  | failed (e : ε)
deriving DecidableEq

namespace Drawn

/-- The answer that the result of a line stands for. -/
def ofLine : Except (LineError ε) (Option String) → Drawn ε
  | .ok l => .line l
  | .error e => .lineFailed e

/-- The answer that the result of another call stands for. -/
def of {α : Type} (f : α → Drawn ε) : Except ε α → Drawn ε
  | .ok a => f a
  | .error e => .failed e

theorem answered {α : Type} {p : Except ε α × σ} {f : α → Drawn ε} {x : Drawn ε} {s : σ}
    (h : some (p.map (Drawn.of f) id) = some (x, s)) : ∃ y, p = (y, s) ∧ x = Drawn.of f y := by
  obtain ⟨rfl, rfl⟩ := Prod.mk.inj (Option.some.inj h)
  exact ⟨p.1, rfl, rfl⟩

end Drawn

/-- Makes the call; `none` if a line takes more than `fuel` buffers. -/
def Draw.run [Rewindable σ ε] (fuel : Nat) :
    Draw → LineScanner σ → Option (Drawn ε × LineScanner σ)
  | .line, w => (w.nextLine fuel).map (Prod.map Drawn.ofLine id)
  | .read n, w => some ((Reader.read n w).map (Drawn.of .chars) id)
  | .readChar, w => some ((Reader.readChar w).map (Drawn.of .char) id)
  | .skip n, w => some ((Reader.skip n w).map (Drawn.of .skipped) id)

/-! ## What a call takes -/

/-- The characters that a call takes, when the pieces `ps` arrive in the course of it and `pending`
is what the source has in store afterwards. A call that falls short has met the end: nothing is
in store, and the last thing that arrived is the report of it. -/
inductive Took (ps : List (List Char)) (pending : List Char) :
    Draw → Drawn ε → List Char → Prop
  /-- A line and what ends it, which is decided by what comes after it. -/
  | line {line t : List Char} : Unbroken line → line ++ t ≠ [] → LineEnd ps t pending →
      Took ps pending .line (.line (some (String.ofList line))) (line ++ t)
  | noLine : pending = [] → Ended ps → Took ps pending .line (.line none) []
  | read {n : Nat} {cs : List Char} : cs.length ≤ n →
      (0 < n → cs = [] → pending = [] ∧ Ended ps) → Took ps pending (.read n) (.chars cs) cs
  | readChar {next : Option Char} : (next = none → pending = [] ∧ Ended ps) →
      Took ps pending .readChar (.char next) next.toList
  | skip {n : Nat} {cs : List Char} : cs.length ≤ n →
      (cs.length < n → pending = [] ∧ Ended ps) → Took ps pending (.skip n) (.skipped cs.length) cs

theorem ReplayBuffer.Holds.neverFails [Reader ρ ε] {capacity : Nat} {b : ReplayBuffer ρ}
    {ahead : List Char} {r : ρ} (hb : Holds capacity b ahead r) (hr : NeverFails r) :
    NeverFails b := by
  intro ps b' e b'' hps hf
  obtain ⟨qs, ahead', r', hqs, -, -, hb'⟩ := hb.reads hps
  obtain ⟨e', r'', hf'⟩ := hb'.fails hf
  exact hr qs r' e' r'' hqs hf'

theorem LineScanner.onSource_cases {α : Type} {f : σ → α × σ} {w w' : LineScanner σ} {y : α}
    (h : w.onSource f = (y, w')) : f w.source = (y, w'.source) ∧ w'.options = w.options := by
  obtain ⟨rfl, rfl⟩ := Prod.mk.inj h
  exact ⟨rfl, rfl⟩

/-- **Every call takes from the front** of what is pending and arrives, and leaves the rest. -/
theorem draw_took [Reader ρ ε] {capacity fuel : Nat} {w w' : LineScanner (ReplayBuffer ρ)}
    {ahead : List Char} {r : ρ} {d : Draw} {x : Drawn (ReplayError ε)}
    (hw : ReplayBuffer.Holds capacity w.source ahead r) (hr : NeverFails r)
    (ho : w.options.maxLineLength + 1 ≤ capacity) (hle : capacity ≤ Count.largest)
    (h : d.run fuel w = some (x, w')) :
    w'.options = w.options ∧ ∃ ps taken ahead' r', Reads r ps r' ∧
      ReplayBuffer.Holds capacity w'.source ahead' r' ∧ ahead ++ ps.flatten = taken ++ ahead' ∧
      Took ps ahead' d x taken := by
  have hsource : NeverFails w.source := hw.neverFails hr
  cases d with
  | line =>
    obtain ⟨⟨y, w₁⟩, hcall, hx⟩ := Option.map_eq_some_iff.1 h
    obtain ⟨rfl, rfl⟩ := Prod.mk.inj hx
    obtain ⟨hoptions, handed, ahead', r', hw', hline⟩ :=
      (replayBuffer_serves hle).nextLine_cases ho hw hcall
    refine ⟨hoptions, ?_⟩
    cases hline with
    | line hps hcons hun hne hend => exact ⟨_, _, ahead', r', hps, hw', hcons, .line hun hne hend⟩
    | nothing hps hahead hflat hended =>
      exact ⟨_, [], [], r', hps, hw', by simp [hahead, hflat], .noLine rfl hended⟩
    | failed hps hf => exact absurd hf (hr _ _ _ _ hps)
  | read n =>
    obtain ⟨y, hcall, rfl⟩ := Drawn.answered h
    obtain ⟨hread, hoptions⟩ := LineScanner.onSource_cases hcall
    refine ⟨hoptions, ?_⟩
    by_cases hn : n = 0
    · subst hn
      obtain ⟨rfl, hsame⟩ :=
        Prod.mk.inj (show (Except.ok [], w.source) = (y, w'.source) from hread)
      exact ⟨[], [], ahead, r, .refl r, hsame ▸ hw, by simp, .read (Nat.le_refl 0) (by simp)⟩
    · have hn := Nat.pos_of_ne_zero hn
      cases y with
      | ok cs =>
        obtain ⟨qs, ahead', r', hqs, hcons, hend, hb⟩ := hw.reads (.one hn hread)
        refine ⟨qs, cs, ahead', r', hqs, hb, by simpa using hcons, ?_⟩
        apply Took.read (Reader.length_read_le hread)
        intro _ hcs
        exact hend (by simp [hcs, Ended])
      | error e => exact absurd ⟨n, hn, hread⟩ (hsource _ _ _ _ (.refl _))
  | readChar =>
    obtain ⟨y, hcall, rfl⟩ := Drawn.answered h
    obtain ⟨hread, hoptions⟩ := LineScanner.onSource_cases hcall
    refine ⟨hoptions, ?_⟩
    rcases readOne_cases hread with ⟨next, rfl, hps⟩ | ⟨e, -, hf⟩
    · obtain ⟨qs, ahead', r', hqs, hcons, hend, hb⟩ := hw.reads hps
      refine ⟨qs, next.toList, ahead', r', hqs, hb, by simpa using hcons, ?_⟩
      apply Took.readChar
      intro hnone
      exact hend (by simp [hnone, Ended])
    · exact absurd hf (hsource _ _ _ _ (.refl _))
  | skip n =>
    obtain ⟨y, hcall, rfl⟩ := Drawn.answered h
    obtain ⟨hread, hoptions⟩ := LineScanner.onSource_cases hcall
    refine ⟨hoptions, ?_⟩
    rcases skipBy_cases hread with ⟨ps, rfl, hps, hlen, hended⟩ | ⟨e, ps, b, -, hps, hf, -⟩
    · obtain ⟨qs, ahead', r', hqs, hcons, hend, hb⟩ := hw.reads hps
      refine ⟨qs, ps.flatten, ahead', r', hqs, hb, hcons, ?_⟩
      apply Took.skip hlen
      intro hlt
      exact hend (hended hlt)
    · exact absurd hf (hsource _ _ _ _ hps)

/-! ## Any sequence of calls -/

/-- The answers to the calls in turn; `none` if a line takes more than `fuel` buffers. -/
def draws [Rewindable σ ε] (fuel : Nat) : List Draw → LineScanner σ → Option (List (Drawn ε))
  | [], _ => some []
  | d :: ds, w =>
    match d.run fuel w with
    | none => none
    | some (x, w') => (draws fuel ds w').map (x :: ·)

/-- A call and its answer, what the reader below answered meanwhile, and what is pending then. -/
structure Exchange (ε : Type) where
  draw : Draw
  drawn : Drawn (ReplayError ε)
  fetched : List (Except ε (List Char))
  pending : List Char

/-- The calls in turn, over a recorded reader. -/
def exchanges [Reader ρ ε] (fuel : Nat) :
    List Draw → LineScanner (ReplayBuffer (Recorder ρ ε)) → Option (List (Exchange ε))
  | [], _ => some []
  | d :: ds, w =>
    match d.run fuel w with
    | none => none
    | some (x, w') =>
      let e : Exchange ε := {
        draw := d
        drawn := x
        fetched := w'.source.inner.log.drop w.source.inner.log.length
        pending := w'.source.pending }
      (exchanges fuel ds w').map (e :: ·)

/-- The account is right after every call: of a reader that has answered `log` before, all that was
delivered is what the calls have taken, `consumed` among it, and then what is pending. -/
inductive Accounts : List (Except ε (List Char)) → List Char → List (Exchange ε) → Prop
  | nil (log : List (Except ε (List Char))) (consumed : List Char) : Accounts log consumed []
  | cons {log : List (Except ε (List Char))} {consumed taken : List Char}
      {ps : List (List Char)} {e : Exchange ε} {es : List (Exchange ε)} :
      e.fetched = ps.map .ok → Took ps e.pending e.draw e.drawn taken →
      delivered (log ++ e.fetched) = consumed ++ taken ++ e.pending →
      Accounts (log ++ e.fetched) (consumed ++ taken) es → Accounts log consumed (e :: es)

theorem LineScanner.onSource_mapSource {α : Type} {f : σ → τ} {g : σ → α × σ} {g' : τ → α × τ}
    {w : LineScanner σ} (h : g' (f w.source) = (g w.source).map id f) :
    (w.mapSource f).onSource g' = (w.onSource g).map id (·.mapSource f) := by
  show ((g' (f w.source)).1, { w.mapSource f with source := (g' (f w.source)).2 }) = _
  rw [h]
  rfl

theorem Mirrors.draw [Rewindable σ ε] [Rewindable τ ε] {f : σ → τ} (hf : Mirrors f) (fuel : Nat)
    (d : Draw) (w : LineScanner σ) :
    d.run fuel (w.mapSource f) = (d.run fuel w).map (Prod.map id (·.mapSource f)) := by
  cases d with
  | line => rw [Draw.run, Draw.run, hf.nextLine, Option.map_map, Option.map_map]; rfl
  | read n =>
    exact congrArg (fun p => some (p.map (Drawn.of .chars) id))
      (LineScanner.onSource_mapSource (hf.read n w.source))
  | readChar =>
    exact congrArg (fun p => some (p.map (Drawn.of .char) id))
      (LineScanner.onSource_mapSource (hf.readChar w.source))
  | skip n =>
    exact congrArg (fun p => some (p.map (Drawn.of .skipped) id))
      (LineScanner.onSource_mapSource (hf.skip n w.source))

theorem draws_eq_exchanges [Reader ρ ε] (fuel : Nat) (ds : List Draw)
    (w : LineScanner (ReplayBuffer (Recorder ρ ε))) :
    draws fuel ds (w.mapSource ReplayBuffer.unrecorded)
      = (exchanges fuel ds w).map (·.map (·.drawn)) := by
  induction ds generalizing w with
  | nil => rfl
  | cons d ds ih =>
    rw [draws, exchanges, recorder_mirrors.draw]
    rcases d.run fuel w with _ | ⟨x, w'⟩
    · rfl
    · simp only [Option.map_some, Prod.map, id, ih, Option.map_map]
      rfl

theorem exchanges_accounts [Reader ρ ε] {capacity fuel : Nat} {ds : List Draw}
    {w : LineScanner (ReplayBuffer (Recorder ρ ε))} {es : List (Exchange ε)}
    {ahead consumed : List Char} {r : Recorder ρ ε}
    (hw : ReplayBuffer.Holds capacity w.source ahead r) (hr : NeverFails r)
    (ho : w.options.maxLineLength + 1 ≤ capacity) (hle : capacity ≤ Count.largest)
    (hlog : delivered r.log = consumed ++ ahead) (h : exchanges fuel ds w = some es) :
    Accounts r.log consumed es := by
  induction ds generalizing w es ahead consumed r with
  | nil =>
    cases h
    exact .nil _ _
  | cons d ds ih =>
    rw [exchanges] at h
    cases hrun : d.run fuel w with
    | none =>
      rw [hrun] at h
      cases h
    | some out =>
      obtain ⟨x, w'⟩ := out
      rw [hrun] at h
      obtain ⟨es', hes', rfl⟩ := Option.map_eq_some_iff.1 h
      obtain ⟨hoptions, ps, taken, ahead', r', hps, hw', hcons, htook⟩ :=
        draw_took hw hr ho hle hrun
      have hfetched : w'.source.inner.log.drop w.source.inner.log.length = ps.map .ok := by
        rw [hw'.inner, hw.inner, hps.log, List.drop_left]
      have hdelivered : delivered r'.log = consumed ++ taken ++ ahead' := by
        rw [hps.log, delivered_append, delivered_ok, hlog, List.append_assoc, hcons,
          List.append_assoc]
      refine .cons hfetched (hw'.pending ▸ htook) ?_ ?_
      · rw [hfetched, ← hps.log, hdelivered, hw'.pending]
      · simp only [hfetched, ← hps.log]
        exact ih hw' (hr.reads hps) (hoptions ▸ ho) hdelivered hes'

theorem exchanges_none [Reader ρ ε] {capacity fuel : Nat} {ds : List Draw}
    {w : LineScanner (ReplayBuffer (Recorder ρ ε))} {ahead : List Char} {r : Recorder ρ ε}
    (hw : ReplayBuffer.Holds capacity w.source ahead r) (hr : NeverFails r)
    (ho : w.options.maxLineLength + 1 ≤ capacity) (hle : capacity ≤ Count.largest)
    (h : exchanges fuel ds w = none) :
    ∃ ps r', Reads r ps r' ∧ fuel ≤ (ahead ++ ps.flatten).length := by
  induction ds generalizing w ahead r with
  | nil => cases h
  | cons d ds ih =>
    rw [exchanges] at h
    cases hrun : d.run fuel w with
    | none =>
      cases d with
      | line =>
        exact (replayBuffer_serves hle).nextLine_none ho hw (Option.map_eq_none_iff.1 hrun)
      | read n => cases hrun
      | readChar => cases hrun
      | skip n => cases hrun
    | some out =>
      obtain ⟨x, w'⟩ := out
      rw [hrun] at h
      obtain ⟨hoptions, ps, taken, ahead', r', hps, hw', hcons, -⟩ := draw_took hw hr ho hle hrun
      obtain ⟨ps', r'', hps', hlen⟩ :=
        ih hw' (hr.reads hps) (hoptions ▸ ho) (Option.map_eq_none_iff.1 h)
      refine ⟨ps ++ ps', r'', hps.trans hps', ?_⟩
      have hflat : ahead ++ (ps ++ ps').flatten = taken ++ (ahead' ++ ps'.flatten) ++ [] :=
        through_append hcons (List.append_nil _).symm
      rw [hflat, List.append_nil, List.length_append]
      exact Nat.le_trans hlen (Nat.le_add_left _ _)

/-- **No character is lost or taken twice**, whatever lines, reads and skips are mixed. Over a
reader that does not fail no call fails, and the account is right after each. Calls that do not
return need a reader with as many characters as there is fuel. -/
theorem scanner_conserves [Reader ρ ε] {r : ρ} (hr : NeverFails r) {options : LineOptions}
    {capacity : Nat} (ho : options.maxLineLength + 1 ≤ capacity) (hle : capacity ≤ Count.largest)
    (fuel : Nat) (ds : List Draw) :
    let es := exchanges fuel ds { source := { inner := { inner := r }, capacity }, options }
    draws fuel ds ({ source := { inner := r, capacity }, options } : LineScanner (ReplayBuffer ρ))
        = es.map (·.map (·.drawn)) ∧
      (∀ l, es = some l → Accounts [] [] l) ∧
      (es = none → ∃ ps r', Reads r ps r' ∧ fuel ≤ ps.flatten.length) := by
  intro es
  have hrec : NeverFails ({ inner := r } : Recorder ρ ε) := NeverFails.recorder hr
  have hw : ReplayBuffer.Holds capacity { inner := ({ inner := r } : Recorder ρ ε), capacity } []
      { inner := r } := ⟨rfl, rfl, rfl⟩
  refine ⟨draws_eq_exchanges fuel ds { source := { inner := { inner := r }, capacity }, options },
    ?_, ?_⟩
  · intro l hl
    exact exchanges_accounts hw hrec ho hle rfl hl
  · intro hnone
    obtain ⟨ps, r', hps, hlen⟩ := exchanges_none hw hrec ho hle hnone
    exact ⟨ps, r'.inner, hps.inner, hlen⟩

/-- Lines, a read and a skip, over a reader that reports an end in every third read. -/
theorem scanner_conserves_planned :
    let inner : PlannedReader String :=
      { text := .ofString "ab\r\ncde", plan := fun k => .ok (k % 3) }
    let ds : List Draw := [.line, .read 1, .line, .skip 2, .line]
    NeverFails inner ∧ ∃ es,
      draws 8 ds ({ source := { inner, capacity := 3 }, options := ⟨2, by decide⟩ } :
          LineScanner (ReplayBuffer (PlannedReader String))) = some (es.map (·.drawn)) ∧
        Accounts [] [] es := by
  intro inner ds
  have hplan (k : Nat) : ∃ m, inner.plan k = .ok m := ⟨k % 3, rfl⟩
  have hr : NeverFails inner := PlannedReader.neverFails hplan
  have ho : (⟨2, by decide⟩ : LineOptions).maxLineLength + 1 ≤ 3 := by decide
  obtain ⟨hdraws, haccounts, hnone⟩ := scanner_conserves hr ho (by decide) 8 ds
  refine ⟨hr, ?_⟩
  cases hes : exchanges 8 ds
      { source := { inner := { inner }, capacity := 3 }, options := ⟨2, by decide⟩ } with
  | some es => exact ⟨es, by rw [hdraws, hes]; rfl, haccounts es hes⟩
  | none =>
    -- Eight characters would have to come from a text of seven.
    obtain ⟨ps, p', hps, hlen⟩ := hnone hes
    have hcount := congrArg List.length (PlannedReader.text_of_reads hplan hps).2
    have hseven : inner.text.remaining = 7 := rfl
    rw [List.length_append, TextSource.length_rest, hseven] at hcount
    omega

end CharStream
