import CharStream.Proofs.Cursor
import CharStream.Proofs.Replaying

/-!
# How far a scanner looks ahead

A source lets itself be rewound only if not too much was read since the mark. How much the scanner
reads is its own doing, whatever the source answers, so it is said here of every source: of one that
loses characters, brings others after a rewind, or fails at any time.

`Traced` records the calls that are made of a source, and `sinceMark` says what was read since the
last mark at each time of such a record. `Searching` is the invariant of a search: at no time is
that more than one buffer, or one character more behind a carriage return that closes the buffer.

* `Searching.step` — what one more call must respect; `Scanned.searching`, `Spilled.searching` and
  `Searching.find` carry the invariant through one buffer, full buffers and a search.
* `Found.take_ending` — what follows a search is a rewind and a skip over what was seen.
* `Found.take_kept` — where marks hold, that rewind succeeds and the skip does not fall short.
* `Replays.keepsMark` — sources that replay a reader keep marks.
* `nextLine_lookahead` — all this of one call.
-/

namespace CharStream

open Line (Spilled Scanned Concludes Found ScanEnd)

variable {σ ρ ε ε' : Type}

/-! ## Calls on record -/

/-- The source `inner`, and the calls made of it with what they answered, the oldest first. -/
structure Traced (σ ε : Type) where
  inner : σ
  log : List (Call × Answer ε) := []

namespace Traced

/-- Makes a call, and records it. -/
def note {α : Type} (call : Call) (answer : α → Answer ε) (op : σ → Except ε α × σ)
    (s : Traced σ ε) : Except ε α × Traced σ ε :=
  let (x, inner) := op s.inner
  (x, { inner, log := s.log ++ [(call, .of answer x)] })

theorem note_eq {α : Type} {call : Call} {answer : α → Answer ε} {op : σ → Except ε α × σ}
    {s s' : Traced σ ε} {x : Except ε α} (h : note call answer op s = (x, s')) :
    op s.inner = (x, s'.inner) ∧ s'.log = s.log ++ [(call, .of answer x)] := by
  obtain ⟨rfl, rfl⟩ := Prod.mk.inj h
  exact ⟨rfl, rfl⟩

theorem note_of {α : Type} {call : Call} {answer : α → Answer ε} {op : σ → Except ε α × σ}
    {s : Traced σ ε} {inner : σ} {x : Except ε α} (h : op s.inner = (x, inner)) :
    note call answer op s = (x, { inner, log := s.log ++ [(call, .of answer x)] }) := by
  rw [note, h]

instance [Rewindable σ ε] : Rewindable (Traced σ ε) ε where
  read n := note (.read n) .chars (Reader.read n)
  length_read_le h := Reader.length_read_le (note_eq h).1
  readChar := note .readChar .char Reader.readChar
  skip n := note (.skip n) .skipped (Reader.skip n)
  lookahead s := Rewindable.lookahead s.inner
  mark n := note (.mark n) (fun () => .done) (Rewindable.mark n)
  rewind := note .rewind (fun () => .done) Rewindable.rewind

end Traced

theorem traced_mirrors [Rewindable σ ε] : Mirrors (Traced.inner : Traced σ ε → σ) where
  read _ _ := rfl
  readChar _ := rfl
  skip _ _ := rfl
  lookahead _ := rfl
  mark _ _ := rfl
  rewind _ := rfl

/-! ## Runs of reads -/

/-- Reads from `s` to `s'`, of characters by themselves or of several, none of which failed, and
which together brought `cs`. -/
inductive Passes [Reader σ ε] : σ → List Char → σ → Prop
  | refl (s : σ) : Passes s [] s
  | read {s s₁ s₂ : σ} {cs ds : List Char} {n : Nat} :
      Passes s cs s₁ → 0 < n → Reader.read n s₁ = (.ok ds, s₂) → Passes s (cs ++ ds) s₂
  | readChar {s s₁ s₂ : σ} {cs : List Char} {next : Option Char} :
      Passes s cs s₁ → Reader.readChar s₁ = (.ok next, s₂) → Passes s (cs ++ next.toList) s₂

theorem Reads.passes [Reader σ ε] {s s' : σ} {ps : List (List Char)} (h : Reads s ps s') :
    Passes s ps.flatten s' := by
  induction h with
  | refl => exact .refl s
  | snoc _ hn hr ih =>
    rw [List.flatten_append, List.flatten_singleton]
    exact .read ih hn hr

theorem Passes.inner [Rewindable σ ε] {s s' : Traced σ ε} {cs : List Char} (h : Passes s cs s') :
    Passes s.inner cs s'.inner := by
  induction h with
  | refl => exact .refl s.inner
  | read _ hn hr ih => exact .read ih hn (Traced.note_eq hr).1
  | readChar _ hr ih => exact .readChar ih (Traced.note_eq hr).1

/-! ## Since the mark -/

/-- What was read since the last mark, after one more call; `none` if no mark is set. -/
def since (seen : Option (List Char)) : Call × Answer ε → Option (List Char)
  | (.mark _, .done) => some []
  | (.mark _, _) => none
  | (_, .chars cs) => seen.map (· ++ cs)
  | (_, .char c) => seen.map (· ++ c.toList)
  | _ => seen

/-- What was read since the last mark, after the calls in turn. -/
def sinceMark (log : List (Call × Answer ε)) : Option (List Char) := log.foldl since none

theorem sinceMark_concat (log : List (Call × Answer ε)) (e : Call × Answer ε) :
    sinceMark (log ++ [e]) = since (sinceMark log) e := by
  simp [sinceMark]

theorem Passes.sinceMark [Rewindable σ ε] {s s' : Traced σ ε} {cs ds : List Char}
    (h : Passes s ds s') (hcs : sinceMark s.log = some cs) :
    CharStream.sinceMark s'.log = some (cs ++ ds) := by
  induction h with
  | refl => rw [hcs, List.append_nil]
  | read _ _ hr ih =>
    rw [(Traced.note_eq hr).2, sinceMark_concat, ih, ← List.append_assoc]
    rfl
  | readChar _ hr ih =>
    rw [(Traced.note_eq hr).2, sinceMark_concat, ih, ← List.append_assoc]
    rfl

/-- No more than `max` characters, or one more behind a carriage return. -/
def InReach (max : Nat) (cs : List Char) : Prop :=
  cs.length ≤ max + 1 ∧ (max < cs.length → (cs.take max).getLast? = some '\r')

/-- What a search may call when `seen` was read since the last mark. -/
inductive Allowed (o : LineOptions) (seen : Option (List Char)) : Call → Prop
  | mark : Allowed o seen (.mark o.readAhead)
  | read {cs : List Char} {n : Nat} : seen = some cs → Allowed o seen (.read n)
  | readChar {cs : List Char} : seen = some cs → cs.length ≤ o.maxLineLength →
      cs.getLast? = some '\r' → Allowed o seen .readChar

/-- The calls on record led from `start` to where the source is. They are marks, and reads under a
mark, and at no time was more read since the mark than is in reach. -/
structure Searching [Rewindable σ ε] (o : LineOptions) (start : σ) (s : Traced σ ε) : Prop where
  follows : after (s.log.map Prod.fst) start = s.inner
  allowed : ∀ front call answer, front ++ [(call, answer)] <+: s.log →
    Allowed o (sinceMark front) call
  inReach : ∀ front cs, front <+: s.log → sinceMark front = some cs → InReach o.maxLineLength cs

section Search

variable [Rewindable σ ε] {o : LineOptions} {start : σ} {s s' : Traced σ ε}

theorem after_concat (calls : List Call) (call : Call) (s : σ) :
    after (calls ++ [call]) s = (call.run (after calls s)).2 := by
  induction calls generalizing s with
  | nil => rfl
  | cons call' calls ih => exact ih _

theorem InReach.of_le {max : Nat} {cs : List Char} (h : cs.length ≤ max) : InReach max cs :=
  ⟨Nat.le_succ_of_le h, fun hlt => absurd hlt (Nat.not_lt.2 h)⟩

theorem InReach.behind_cr {max : Nat} {cs : List Char} (h : (cs ++ ['\r']).length ≤ max)
    (next : Option Char) : InReach max (cs ++ ['\r'] ++ next.toList) := by
  have hone : next.toList.length ≤ 1 := by cases next <;> simp
  refine ⟨?_, ?_⟩
  · rw [List.length_append]
    omega
  · intro hlt
    rw [List.length_append] at hlt
    have hmax : max = (cs ++ ['\r']).length := by omega
    rw [hmax, List.take_left]
    simp

theorem Searching.refl (o : LineOptions) (start : σ) :
    Searching o start ({ inner := start } : Traced σ ε) where
  follows := rfl
  allowed front call answer h := by simp at h
  inReach front cs h hcs := by
    rw [List.prefix_nil.1 h] at hcs
    cases hcs

/-- **One more call** of a search, and what was read since the mark after it. -/
theorem Searching.step {α : Type} {call : Call} {answer : α → Answer ε}
    {op : σ → Except ε α × σ} {x : Except ε α} {seen : Option (List Char)}
    (hs : Searching o start s) (h : Traced.note call answer op s = (x, s'))
    (hrun : (call.run s.inner).2 = (op s.inner).2) (hcall : Allowed o (sinceMark s.log) call)
    (hseen : since (sinceMark s.log) (call, .of answer x) = seen)
    (hreach : ∀ cs, seen = some cs → InReach o.maxLineLength cs) :
    Searching o start s' ∧ sinceMark s'.log = seen := by
  obtain ⟨hop, hlog⟩ := Traced.note_eq h
  have hseen' : sinceMark s'.log = seen := by rw [hlog, sinceMark_concat, hseen]
  refine ⟨⟨?_, ?_, ?_⟩, hseen'⟩
  · rw [hlog, List.map_append, List.map_singleton, after_concat, hs.follows, hrun, hop]
  · intro front call' answer' hfront
    rw [hlog, List.prefix_concat_iff] at hfront
    rcases hfront with hfront | hfront
    · obtain ⟨rfl, hevent⟩ := List.append_inj' hfront rfl
      cases hevent
      exact hcall
    · exact hs.allowed front call' answer' hfront
  · intro front cs hfront hcs
    rw [hlog, List.prefix_concat_iff, ← hlog] at hfront
    rcases hfront with rfl | hfront
    · exact hreach cs (hseen'.symm.trans hcs)
    · exact hs.inReach front cs hfront hcs

theorem Searching.now (hs : Searching o start s) {cs : List Char}
    (hcs : sinceMark s.log = some cs) : InReach o.maxLineLength cs :=
  hs.inReach s.log cs (List.prefix_refl _) hcs

theorem Searching.mark (hs : Searching o start s) {x : Except ε Unit}
    (h : Rewindable.mark o.readAhead s = (x, s')) :
    Searching o start s' ∧ (x = .ok () → sinceMark s'.log = some []) := by
  cases x with
  | ok =>
    obtain ⟨hs', hseen⟩ : Searching o start s' ∧ sinceMark s'.log = some [] := by
      refine hs.step h rfl .mark rfl ?_
      rintro _ ⟨⟩
      exact .of_le (Nat.zero_le _)
    exact ⟨hs', fun _ => hseen⟩
  | error e =>
    obtain ⟨hs', -⟩ : Searching o start s' ∧ sinceMark s'.log = none :=
      hs.step h rfl .mark rfl nofun
    exact ⟨hs', fun hx => nomatch hx⟩

theorem Searching.read (hs : Searching o start s) {cs ds : List Char} {n : Nat}
    (hcs : sinceMark s.log = some cs) (h : Reader.read n s = (.ok ds, s'))
    (hle : (cs ++ ds).length ≤ o.maxLineLength) :
    Searching o start s' ∧ sinceMark s'.log = some (cs ++ ds) := by
  have hseen : since (sinceMark s.log) (.read n, (.chars ds : Answer ε)) = some (cs ++ ds) := by
    rw [hcs]
    rfl
  refine hs.step h rfl (.read hcs) hseen ?_
  rintro _ ⟨⟩
  exact .of_le hle

theorem Searching.readFailed (hs : Searching o start s) {cs : List Char} {n : Nat} {e : ε}
    (hcs : sinceMark s.log = some cs) (h : Reader.read n s = (.error e, s')) :
    Searching o start s' := by
  refine (hs.step h rfl (.read hcs) rfl ?_).1
  intro ds hds
  exact hs.now hds

/-- **The one character more** is read only behind a carriage return. -/
theorem Searching.readChar (hs : Searching o start s) {cs : List Char} {x : Except ε (Option Char)}
    (hcs : sinceMark s.log = some (cs ++ ['\r'])) (hle : (cs ++ ['\r']).length ≤ o.maxLineLength)
    (h : Reader.readChar s = (x, s')) : Searching o start s' := by
  have hcall : Allowed o (sinceMark s.log) .readChar := .readChar hcs hle (by simp)
  cases x with
  | error e => exact (hs.step h rfl hcall rfl (fun ds hds => hs.now hds)).1
  | ok next =>
    have hseen : since (sinceMark s.log) (.readChar, (.char next : Answer ε))
        = some (cs ++ ['\r'] ++ next.toList) := by
      rw [hcs]
      rfl
    refine (hs.step h rfl hcall hseen ?_).1
    rintro _ ⟨⟩
    exact .behind_cr hle next

theorem Searching.reads (hs : Searching o start s) {cs : List Char} {ps : List (List Char)}
    (hcs : sinceMark s.log = some cs) (h : Reads s ps s')
    (hle : (cs ++ ps.flatten).length ≤ o.maxLineLength) : Searching o start s' := by
  induction h with
  | refl => exact hs
  | @snoc s₁ s₂ ps n ds hps hn hr ih =>
    rw [List.flatten_append, List.flatten_singleton, ← List.append_assoc] at hle
    have hle₁ : (cs ++ ps.flatten).length ≤ o.maxLineLength := by
      rw [List.length_append] at hle
      omega
    exact ((ih hle₁).read (hps.passes.sinceMark hcs) hr hle).1

/-- How many characters of the buffer a scan says the line takes. -/
def Line.ScanEnd.taken : ScanEnd → Nat
  | .terminated _ taken => taken
  | .exhausted length => length
  | .full => 0

/-- **A scan** reads no further than is in reach, and what it says the line takes it has read. -/
theorem Line.Scanned.searching {line : List Char} {y : Except ε ScanEnd}
    (h : Scanned o.maxLineLength s line y s') (hs : Searching o start s)
    (hmarked : sinceMark s.log = some []) :
    Searching o start s' ∧ ∀ z, y = .ok z → ∃ cs, Passes s cs s' ∧ z.taken ≤ cs.length := by
  have hreads {ps : List (List Char)} {s₁ : Traced σ ε} (hps : Brings s ps s₁)
      (hle : ps.flatten.length ≤ o.maxLineLength) :
      Searching o start s₁ ∧ Passes s ps.flatten s₁ ∧ sinceMark s₁.log = some ps.flatten := by
    have hpasses := hps.reads.passes
    exact ⟨hs.reads hmarked hps.reads hle, hpasses, hpasses.sinceMark hmarked⟩
  cases h with
  | @found ps t rest _ hps hflat _ hle =>
    obtain ⟨hs', hpasses, -⟩ := hreads hps hle
    refine ⟨hs', ?_⟩
    rintro z hz
    cases hz
    refine ⟨_, hpasses, ?_⟩
    simp only [Line.ScanEnd.taken, hflat, List.length_append]
    omega
  | @closing ps next s₁ _ hps hflat hle hr =>
    obtain ⟨hs₁, hpasses, hseen⟩ := hreads hps hle
    rw [hflat] at hseen hle
    refine ⟨hs₁.readChar hseen hle hr, ?_⟩
    rintro z hz
    cases hz
    refine ⟨_, .readChar hpasses hr, ?_⟩
    rw [hflat]
    by_cases hnext : next = some '\n'
    · simp [Line.ScanEnd.taken, hnext]
    · simp [Line.ScanEnd.taken, hnext]
  | @exhausted ps s₁ _ hps hflat hlt hr =>
    obtain ⟨hs₁, hpasses, hseen⟩ := hreads hps (hflat ▸ Nat.le_of_lt hlt)
    have hle : (ps.flatten ++ []).length ≤ o.maxLineLength := by
      rw [List.append_nil, hflat]
      exact Nat.le_of_lt hlt
    refine ⟨(hs₁.read hseen hr hle).1, ?_⟩
    rintro z hz
    cases hz
    refine ⟨_, .read hpasses (Nat.sub_pos_of_lt hlt) hr, ?_⟩
    rw [List.append_nil, hflat]
    exact Nat.le_refl _
  | @full ps _ hps hflat hlen =>
    obtain ⟨hs', hpasses, -⟩ := hreads hps (hflat ▸ Nat.le_of_eq hlen)
    refine ⟨hs', ?_⟩
    rintro z hz
    cases hz
    exact ⟨_, hpasses, Nat.zero_le _⟩
  | @failed ps e s₁ _ hps hflat hlt hr =>
    obtain ⟨hs₁, -, hseen⟩ := hreads hps (hflat ▸ Nat.le_of_lt hlt)
    exact ⟨hs₁.readFailed hseen hr, fun _ hz => nomatch hz⟩
  | @closingFailed ps e s₁ _ hps hflat hle hr =>
    obtain ⟨hs₁, -, hseen⟩ := hreads hps hle
    rw [hflat] at hseen hle
    exact ⟨hs₁.readChar hseen hle hr, fun _ hz => nomatch hz⟩

theorem Line.Spilled.searching {cs : List Char} (h : Spilled o s cs s')
    (hs : Searching o start s) : Searching o start s' := by
  induction h with
  | nil => exact hs
  | cons hmark _ hfull _ ih =>
    obtain ⟨hs₁, hmarked⟩ := hs.mark hmark
    exact ih (hfull.searching hs₁ (hmarked rfl)).1

theorem Line.Concludes.taken {spilled : String} {y : Except ε ScanEnd} {found : Found}
    (h : Concludes spilled y (.ok (some found))) : ∃ z, y = .ok z ∧ found.taken = z.taken := by
  cases h with
  | terminated length taken => exact ⟨_, rfl, rfl⟩
  | last length _ => exact ⟨_, rfl, rfl⟩

/-- **A search** reads no further than is in reach. If it finds a line, then under a mark, since
which it has read all that the line takes. -/
theorem Searching.find (hs : Searching o start s) {fuel : Nat} {buf buf' : Array Char}
    {x : Except ε (Option Found)} (h : Line.find o fuel "" buf s = some (x, buf', s')) :
    Searching o start s' ∧ ∀ found, x = .ok (some found) → ∃ s₀ s₁ cs, Searching o start s₀ ∧
      Rewindable.mark o.readAhead s₀ = (.ok (), s₁) ∧ Passes s₁ cs s' ∧
      sinceMark s'.log = some cs ∧ found.taken ≤ cs.length := by
  obtain ⟨_, s₀, hspill, ⟨e, hmark, rfl⟩ | ⟨s₁, line, y, hmark, -, -, hscan, hconc⟩⟩ :=
    Line.find_cases h
  · exact ⟨((hspill.searching hs).mark hmark).1, fun _ hx => nomatch hx⟩
  · have hs₀ := hspill.searching hs
    obtain ⟨hs₁, hmarked⟩ := hs₀.mark hmark
    obtain ⟨hs', hcover⟩ := hscan.searching hs₁ (hmarked rfl)
    refine ⟨hs', ?_⟩
    rintro found rfl
    obtain ⟨z, rfl, htaken⟩ := hconc.taken
    obtain ⟨cs, hpasses, hle⟩ := hcover z rfl
    exact ⟨s₀, s₁, cs, hs₀, hmark, hpasses, hpasses.sinceMark (hmarked rfl), htaken ▸ hle⟩

end Search

/-! ## After the search -/

/-- What a call does after its search, with `seen` read since the last mark: nothing, if there is no
line; else a rewind and, if that succeeds, a skip over some of what was seen. -/
inductive Ending (seen : Option (List Char)) : List (Call × Answer ε) → Prop
  | stopped : Ending seen []
  | unwound {cs : List Char} {e : ε} : seen = some cs → Ending seen [(.rewind, .failed e)]
  | rewound {cs : List Char} {k : Nat} {answer : Answer ε} : seen = some cs → k ≤ cs.length →
      Ending seen [(.rewind, .done), (.skip k, answer)]

/-- The next reads bring what is in front of `cs`, and all of it before anything else. -/
def Comes [Reader σ ε] (s : σ) (cs : List Char) : Prop :=
  ∀ ds s', Passes s ds s' → ds <+: cs ∨ cs <+: ds

/-- A mark of `limit` that is granted now holds for `bound` characters: a rewind that comes after
reads of no more than these succeeds; and of what was read, a skip that does not fail drops as many
as it is asked to, and what it leaves comes next. -/
def KeepsMark [Rewindable σ ε] (limit bound : Nat) (s : σ) : Prop :=
  ∀ s₁ cs s₂, Rewindable.mark limit s = (.ok (), s₁) → Passes s₁ cs s₂ → cs.length ≤ bound →
    ∃ s₃, Rewindable.rewind s₂ = (.ok (), s₃) ∧
      ∀ k j s₄, k ≤ cs.length → Reader.skip k s₃ = (.ok j, s₄) → j = k ∧ Comes s₄ (cs.drop k)

section Ending

variable [Rewindable σ ε] {s : Traced σ ε} {cs : List Char}

theorem Line.Found.take_ending (found : Found) (buf : Array Char) (hcs : sinceMark s.log = some cs)
    (hle : found.taken ≤ cs.length) :
    ∃ tail, (found.take buf s).2.log = s.log ++ tail ∧ Ending (sinceMark s.log) tail := by
  rw [Found.take]
  rcases hrewind : Rewindable.rewind s with ⟨e | ⟨⟩, s₁⟩
  · exact ⟨_, (Traced.note_eq hrewind).2, .unwound hcs⟩
  · dsimp only
    rcases hskip : Reader.skip found.taken s₁ with ⟨x, s₂⟩
    have hlog := (Traced.note_eq hskip).2
    rw [(Traced.note_eq hrewind).2, List.append_assoc] at hlog
    refine ⟨[(.rewind, .done), (.skip found.taken, .of .skipped x)], ?_, .rewound hcs hle⟩
    cases x with
    | error e => exact hlog
    | ok k =>
      dsimp only
      split
      · exact hlog
      · exact hlog

/-- What becomes of a line that was found where marks hold: it is taken, and what of `cs` it does
not take comes next, or the skip over it fails. -/
inductive Taken (cs : List Char) (k : Nat) :
    Answer ε → Except (LineError ε) String → Traced σ ε → Prop
  | line {line : String} {t : Traced σ ε} :
      Comes t.inner (cs.drop k) → Taken cs k (.skipped k) (.ok line) t
  | failed {e : ε} {t : Traced σ ε} : Taken cs k (.failed e) (.error (.source e)) t

/-- **Where marks hold**, the rewind after a search succeeds, and the skip does not fall short. -/
theorem Line.Found.take_kept {s₀ s₁ : Traced σ ε} {limit bound : Nat}
    (hkeeps : KeepsMark limit bound s₀.inner) (hmark : Rewindable.mark limit s₀ = (.ok (), s₁))
    (hpasses : Passes s₁ cs s) (hbound : cs.length ≤ bound) {found : Found}
    (hle : found.taken ≤ cs.length) (buf : Array Char) :
    ∃ answer, (found.take buf s).2.log
        = s.log ++ [(.rewind, .done), (.skip found.taken, answer)] ∧
      Taken cs found.taken answer (found.take buf s).1 (found.take buf s).2 := by
  obtain ⟨s₃, hrewind, hskips⟩ :=
    hkeeps s₁.inner cs s.inner (Traced.note_eq hmark).1 hpasses.inner hbound
  have hrewind' : Rewindable.rewind s
      = (.ok (), ({ inner := s₃, log := s.log ++ [(.rewind, .done)] } : Traced σ ε)) :=
    Traced.note_of hrewind
  rw [Found.take, hrewind']
  dsimp only
  rcases hskip : Reader.skip found.taken
    ({ inner := s₃, log := s.log ++ [(.rewind, .done)] } : Traced σ ε) with ⟨e | j, t⟩
  · obtain ⟨-, hlog⟩ := Traced.note_eq hskip
    rw [List.append_assoc] at hlog
    exact ⟨.failed e, hlog, .failed⟩
  · obtain ⟨hop, hlog⟩ := Traced.note_eq hskip
    obtain ⟨rfl, hcomes⟩ := hskips found.taken j t.inner hle hop
    rw [List.append_assoc] at hlog
    dsimp only
    rw [if_pos rfl]
    exact ⟨.skipped found.taken, hlog, .line hcomes⟩

end Ending

/-! ## Sources that keep marks -/

/-- The source keeps every mark of `limit`, whatever calls are made of it before, for `bound`
characters. -/
def KeepsMarks [Rewindable σ ε] (limit bound : Nat) (start : σ) : Prop :=
  ∀ calls, KeepsMark limit bound (after calls start)

theorem Passes.reads [Reader σ ε] (hone : ∀ s : σ, Reader.readChar s = readOne Reader.read s)
    {s s' : σ} {cs : List Char} (h : Passes s cs s') : ∃ ps, Reads s ps s' ∧ ps.flatten = cs := by
  induction h with
  | refl => exact ⟨[], .refl s, rfl⟩
  | @read s₁ s₂ cs ds n _ hn hr ih =>
    obtain ⟨ps, hps, rfl⟩ := ih
    exact ⟨ps ++ [ds], .snoc hps hn hr, by simp⟩
  | @readChar s₁ s₂ cs next _ hr ih =>
    obtain ⟨ps, hps, rfl⟩ := ih
    have hr := read_of_readOne (hone s₁ ▸ hr)
    exact ⟨ps ++ [next.toList], .snoc hps Nat.one_pos hr, by simp⟩

/-- **A source that replays a reader keeps marks.** What was not skipped and what is read next are
both in front of what the source has ahead. -/
theorem Replays.keepsMark [Rewindable σ ε'] [Reader ρ ε] {limit bound : Nat} {wrap : ε → ε'}
    {At : σ → Option (List Char) → List Char → ρ → Prop} (hR : Replays limit bound wrap At)
    {s : σ} {handed : Option (List Char)} {ahead : List Char} {r : ρ} (hat : At s handed ahead r) :
    KeepsMark limit bound s := by
  intro s₁ cs s₂ hmark hpasses hle
  obtain ⟨s₁', hmark', hat₁⟩ := hR.mark hat
  obtain rfl : s₁ = s₁' := congrArg Prod.snd (hmark.symm.trans hmark')
  obtain ⟨ps, hps, rfl⟩ := hpasses.reads hR.readChar
  obtain ⟨-, ahead₂, r₂, -, -, -, hat₂⟩ := hR.reads hps hat₁ hle
  obtain ⟨s₃, hrewind, hat₃⟩ := hR.rewind hat₂
  rw [List.nil_append] at hat₃
  refine ⟨s₃, hrewind, ?_⟩
  intro k j s₄ hk hskip
  have hk' : k ≤ (ps.flatten ++ ahead₂).length := by
    rw [List.length_append]
    omega
  obtain ⟨s₄', handed₄, hskip', hat₄⟩ := hR.skip hat₃ hk'
  cases hskip.symm.trans hskip'
  rw [List.drop_append_of_le_length hk] at hat₄
  refine ⟨rfl, ?_⟩
  intro ds s₅ hds
  obtain ⟨qs, hqs, rfl⟩ := hds.reads hR.readChar
  obtain ⟨fetched, -, ahead₅, -, -, hcons, -⟩ := hR.run hqs hat₄
  have hread : qs.flatten <+: ps.flatten.drop k ++ ahead₂ ++ fetched.flatten := ⟨ahead₅, hcons.symm⟩
  have hkept : ps.flatten.drop k <+: ps.flatten.drop k ++ ahead₂ ++ fetched.flatten := by
    rw [List.append_assoc]
    exact List.prefix_append _ _
  exact List.prefix_or_prefix_of_prefix hread hkept

theorem replayBuffer_keepsMarks [Reader ρ ε] (limit : Nat) (b : ReplayBuffer ρ) :
    KeepsMarks (ε := ReplayError ε) limit limit b := by
  intro calls s₁ cs s₂ hmark
  have hle : limit ≤ (after calls b).capacity := by
    rw [← Nat.not_lt]
    intro hlt
    have hrefused : Rewindable.mark limit (after calls b)
        = (.error (.lookahead limit (after calls b).capacity), after calls b) := if_pos hlt
    rw [hrefused] at hmark
    cases hmark
  exact (replayBuffer_replays hle).keepsMark ((after calls b).holds.unmarked limit) s₁ cs s₂ hmark

theorem textSource_keepsMarks {limit : Nat} (hle : limit ≤ Count.largest) (bound : Nat)
    (t : TextSource) : KeepsMarks limit bound t := by
  intro calls
  have hat : TextSource.At (after calls t) none [] (after calls t) := ⟨rfl, by simp⟩
  exact (textSource_replays hle bound).keepsMark hat

/-! ## One call -/

/-- A source of which no call is recorded yet. -/
def Traced.start (s : σ) : Traced σ ε := { inner := s }

theorem nextLine_inv [Rewindable σ ε] {w w' : LineScanner σ} {fuel : Nat}
    {x : Except (LineError ε) (Option String)} (h : w.nextLine fuel = some (x, w')) :
    w' = w ∨
      (∃ y buf, Line.find w.options fuel "" w.buffer w.source = some (y, buf, w'.source) ∧
        ∀ found, y ≠ .ok (some found)) ∨
      ∃ found buf s, Line.find w.options fuel "" w.buffer w.source
          = some (.ok (some found), buf, s) ∧
        x = (found.take buf s).1.map some ∧ w'.source = (found.take buf s).2 := by
  rw [LineScanner.nextLine] at h
  dsimp only at h
  split at h
  · cases h
    exact .inl rfl
  · split at h
    · cases h
    · next e buf s hfind =>
      cases h
      exact .inr (.inl ⟨_, buf, hfind, by simp⟩)
    · next buf s hfind =>
      cases h
      exact .inr (.inl ⟨_, buf, hfind, by simp⟩)
    · next found buf s hfind =>
      cases h
      exact .inr (.inr ⟨found, buf, s, hfind, rfl, rfl⟩)

theorem find_eq_none [Rewindable σ ε] {w : LineScanner σ} {fuel : Nat}
    (h : w.nextLine fuel = none) : Line.find w.options fuel "" w.buffer w.source = none := by
  rw [LineScanner.nextLine] at h
  dsimp only at h
  split at h
  · cases h
  · split at h
    · next hfind => exact hfind
    · cases h
    · cases h
    · cases h

/-- **A scanner looks no further ahead than it says**, whatever its source answers. Since a mark it
reads what the scan buffer holds, and one character more only behind a carriage return at its end;
and it skips no more than it has read. Where marks are kept for so long, the rewind succeeds, and
the source is left right behind the line. A call that does not return has filled as many buffers as
it had fuel. -/
theorem nextLine_lookahead [Rewindable σ ε] (w : LineScanner σ) (fuel : Nat) :
    let o := w.options
    let traced : LineScanner (Traced σ ε) := w.mapSource Traced.start
    w.nextLine fuel = (traced.nextLine fuel).map (Prod.map id (·.mapSource Traced.inner)) ∧
    (∀ x t, traced.nextLine fuel = some (x, t) →
      ∃ (s : Traced σ ε) (tail : List (Call × Answer ε)),
        Searching o w.source s ∧ t.source.log = s.log ++ tail ∧ Ending (sinceMark s.log) tail ∧
        (KeepsMarks o.readAhead (o.maxLineLength + 1) w.source → tail = [] ∨
          ∃ cs k answer y, sinceMark s.log = some cs ∧ k ≤ cs.length ∧
            tail = [(.rewind, .done), (.skip k, answer)] ∧ x = y.map some ∧
            Taken cs k answer y t.source)) ∧
    (traced.nextLine fuel = none → ∃ (s : Traced σ ε) (cs : List Char),
      Spilled o traced.source cs s ∧ cs.length = fuel * o.maxLineLength ∧
        Searching o w.source s) := by
  intro o traced
  have hstart : Searching o w.source traced.source := .refl o w.source
  refine ⟨traced_mirrors.nextLine fuel traced, ?_, ?_⟩
  · intro x t h
    rcases nextLine_inv h with hrefused | ⟨y, buf, hfind, -⟩ | ⟨found, buf, s, hfind, hx, ht⟩
    · rw [hrefused]
      exact ⟨traced.source, [], hstart, rfl, .stopped, fun _ => .inl rfl⟩
    · have hs := (hstart.find hfind).1
      exact ⟨t.source, [], hs, (List.append_nil _).symm, .stopped, fun _ => .inl rfl⟩
    · obtain ⟨hs, hcover⟩ := hstart.find hfind
      obtain ⟨s₀, s₁, cs, hs₀, hmark, hpasses, hseen, hle⟩ := hcover found rfl
      obtain ⟨tail, hlog, hending⟩ := found.take_ending buf hseen hle
      refine ⟨s, tail, hs, ht ▸ hlog, hending, ?_⟩
      intro hkeeps
      have hkeeps := hkeeps (s₀.log.map Prod.fst)
      rw [hs₀.follows] at hkeeps
      obtain ⟨answer, hlog', htaken⟩ :=
        found.take_kept hkeeps hmark hpasses (hs.now hseen).1 hle buf
      rw [← ht] at htaken
      exact .inr ⟨cs, found.taken, answer, _, hseen, hle,
        List.append_cancel_left (hlog.symm.trans hlog'), hx, htaken⟩
  · intro h
    obtain ⟨cs, s, hspill, hlength⟩ := Line.find_none (find_eq_none h)
    exact ⟨s, cs, hspill, hlength, hspill.searching hstart⟩

/-- A carriage return at the end of the second buffer, and a source that looks just far enough
ahead for the character behind it. -/
theorem nextLine_lookahead_carriage_return :
    let w : LineScanner (ReplayBuffer TextSource) :=
      { source := { inner := .ofString "xya\rb", capacity := 3 }, options := ⟨2, by decide⟩ }
    let search : List (Call × Answer (ReplayError Empty)) :=
      [(.mark 3, .done), (.read 2, .chars ['x', 'y']),
        (.mark 3, .done), (.read 2, .chars ['a', '\r']), (.readChar, .char (some 'b'))]
    KeepsMarks w.options.readAhead (w.options.maxLineLength + 1) w.source ∧
      sinceMark search = some ['a', '\r', 'b'] ∧
      ∃ t, (w.mapSource Traced.start).nextLine 8 = some (.ok (some "xya"), t) ∧
        t.source.log = search ++ [(.rewind, .done), (.skip 2, .skipped 2)] ∧
        Comes t.source.inner ['b'] := by
  intro w search
  have hkeeps : KeepsMarks w.options.readAhead (w.options.maxLineLength + 1) w.source :=
    replayBuffer_keepsMarks 3 w.source
  have hcall : ((w.mapSource Traced.start).nextLine 8).map (fun out => (out.1, out.2.source.log))
      = some (.ok (some "xya"), search ++ [(.rewind, .done), (.skip 2, .skipped 2)]) := by
    decide +kernel
  obtain ⟨⟨x, t⟩, h, hout⟩ := Option.map_eq_some_iff.1 hcall
  obtain ⟨rfl, hlog⟩ := Prod.mk.inj hout
  obtain ⟨s, tail, hs, hsplit, -, hkept⟩ := (nextLine_lookahead w 8).2.1 _ t h
  refine ⟨hkeeps, rfl, t, h, hlog, ?_⟩
  rw [hlog] at hsplit
  rcases hkept hkeeps with rfl | ⟨cs, k, answer, y, hseen, -, rfl, -, htaken⟩
  · -- a search does not skip
    have hsearch : search ++ [(.rewind, .done)] ++ [(.skip 2, .skipped 2)] <+: s.log := by
      rw [List.append_nil] at hsplit
      exact ⟨[], hsplit⟩
    cases hs.allowed _ _ _ hsearch
  · obtain ⟨hsearch, htail⟩ := List.append_inj' hsplit rfl
    cases htail
    rw [← hsearch] at hseen
    cases hseen
    cases htaken with
    | line hcomes => exact hcomes

end CharStream
