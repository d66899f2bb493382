import CharStream.Proofs.LineErrors
import CharStream.Proofs.Tape

/-!
# Going on after a failure

A line that cannot be read because the reader fails is not lost. The search for it stands in front
of some character of the unread text, and the mark of the last buffer is set. The text of the full
buffers before that mark is gone, and a rewind puts back all the rest.

`find_unread` says what a search makes of the unread text, whether it fails or not. From there

* `nextLine_failed` — what a failed call has taken, and what a rewind brings back;
* `nextLine_reads` — a call that does not fail reads the first line of the unread text, which is the
  same for every scanner;
* `nextLine_recovers` — the two together.
-/

namespace CharStream

open Line (Unbroken Spilled Scanned Concludes Found isBreak)
open Tape (before)
open ReplayBuffer (Unread)

variable {σ ρ ε : Type}

/-! ## A scan of unread text -/

section Scan

variable [Reader σ ε] {View : σ → Tape → Prop} {m : Nat} {s s' : σ} {u : Tape} {line : List Char}

theorem Line.Terminator.behind {t rest : List Char} (h : Line.Terminator t rest) (u : Tape) :
    (before (t ++ rest) u).AtStop ∧ (before (t ++ rest) u).head ≠ none ∧
      (before (t ++ rest) u).behind = before rest u := by
  have hcons (c : Char) (cs : List Char) (hc : c = '\r' ∨ c = '\n') :
      (before (c :: cs) u).AtStop ∧ (before (c :: cs) u).head ≠ none := by
    refine ⟨?_, Option.some_ne_none c⟩
    intro d hd
    rw [Tape.head_before] at hd
    exact Option.some.inj hd ▸ hc
  cases h with
  | lf =>
    obtain ⟨hstop, hhead⟩ := hcons '\n' rest (.inr rfl)
    refine ⟨hstop, hhead, if_neg ?_⟩
    rintro ⟨hcr, -⟩
    cases Option.some.inj hcr
  | crlf =>
    obtain ⟨hstop, hhead⟩ := hcons '\r' ('\n' :: rest) (.inl rfl)
    exact ⟨hstop, hhead, if_pos ⟨rfl, .inl rfl⟩⟩
  | @cr c rest hc =>
    obtain ⟨hstop, hhead⟩ := hcons '\r' (c :: rest) (.inl rfl)
    refine ⟨hstop, hhead, if_neg ?_⟩
    rintro ⟨-, hlf | hnone⟩
    · exact hc (Option.some.inj hlf)
    · cases hnone

/-- Reads that brought a line and its terminator have the line in front of them, and what they
brought too much is in front of what they leave. -/
theorem Line.Terminator.unread (hV : Yields View) {ps : List (List Char)} {t rest : List Char}
    (ht : Line.Terminator t rest) (hps : Brings s ps s') (hflat : ps.flatten = line ++ t ++ rest)
    (hs : View s u) :
    ∃ w u', line.length + t.length ≤ ps.flatten.length ∧ u = before line w ∧ w.AtStop ∧
      w.head ≠ none ∧ View s' u' ∧
      w.behind = before (ps.flatten.drop (line.length + t.length)) u' := by
  obtain ⟨u', rfl, hs'⟩ := hV.run hps hs
  obtain ⟨hstop, hhead, hbehind⟩ := ht.behind u'
  refine ⟨before (t ++ rest) u', u', ?_, ?_, hstop, hhead, hs', ?_⟩
  · simp only [hflat, List.length_append]
    omega
  · rw [hflat, List.append_assoc, Tape.before_append]
  · rw [hbehind, hflat, ← List.length_append, List.drop_left]

/-- The same of a scan that finds a terminator. Where a carriage return is the last character before
the end is reported, the gap goes with it. -/
theorem Line.Scanned.terminated_unread (hV : Yields View) (hE : ReportsEnds View)
    (hone : ∀ s : σ, Reader.readChar s = readOne Reader.read s) {length taken : Nat}
    (h : Scanned m s line (.ok (.terminated length taken)) s') (hs : View s u) :
    ∃ ps w u', Reads s ps s' ∧ ps.flatten.length ≤ m + 1 ∧ length = line.length ∧
      taken ≤ ps.flatten.length ∧ u = before line w ∧ w.AtStop ∧ w.head ≠ none ∧ View s' u' ∧
      w.behind = before (ps.flatten.drop taken) u' := by
  cases h with
  | @found ps t rest _ hps hflat ht hle =>
    obtain ⟨w, u', htaken, hline⟩ := ht.unread hV hps hflat hs
    exact ⟨ps, w, u', hps.reads, Nat.le_succ_of_le hle, rfl, htaken, hline⟩
  | @closing ps next s₁ _ hps hflat hle hr =>
    have hread := read_of_readOne (hone s₁ ▸ hr)
    cases next with
    | none =>
      obtain ⟨u₁, rfl, hs₁⟩ := hV.run hps hs
      obtain ⟨u', rfl, hs'⟩ := hE.gap hs₁ Nat.one_pos hread
      have hflat' : (ps ++ [[]]).flatten = line ++ ['\r'] := by simp [hflat]
      refine ⟨ps ++ [[]], before ['\r'] u'.gap, u', .snoc hps.reads Nat.one_pos hread, ?_, rfl, ?_,
        ?_, ?_, Option.some_ne_none _, hs', ?_⟩
      · rw [hflat', ← hflat]
        exact Nat.le_succ_of_le hle
      · simp [hflat']
      · rw [hflat, Tape.before_append]
      · intro c hc
        exact Option.some.inj hc ▸ .inl rfl
      · have hdrop : (ps ++ [[]]).flatten.drop (line.length + 1) = [] := by
          rw [hflat']
          simp
        exact (if_pos ⟨rfl, .inr rfl⟩).trans (congrArg (before · u') hdrop).symm
    | some c =>
      have hps' : Brings s (ps ++ [[c]]) s' := hps.snoc Nat.one_pos hread
      have hflat' : (ps ++ [[c]]).flatten = line ++ ['\r'] ++ [c] := by simp [hflat]
      have hle' : (ps ++ [[c]]).flatten.length ≤ m + 1 := by
        rw [hflat', ← hflat, List.length_append]
        exact Nat.succ_le_succ hle
      by_cases hc : c = '\n'
      · subst hc
        have hcrlf : (ps ++ [['\n']]).flatten = line ++ ['\r', '\n'] ++ [] := by simp [hflat]
        obtain ⟨w, u', hline⟩ := (Terminator.crlf []).unread hV hps' hcrlf hs
        exact ⟨_, w, u', hps'.reads, hle', rfl, hline⟩
      · have htaken : ¬ some c = some '\n' := by
          intro hsome
          exact hc (Option.some.inj hsome)
        obtain ⟨w, u', hline⟩ := (Terminator.cr [] hc).unread hV hps' hflat' hs
        rw [if_neg htaken]
        exact ⟨_, w, u', hps'.reads, hle', rfl, hline⟩

theorem Line.Scanned.exhausted_unread (hV : Yields View) (hE : ReportsEnds View) {length : Nat}
    (h : Scanned m s line (.ok (.exhausted length)) s') (hs : View s u) :
    ∃ ps u', Reads s ps s' ∧ ps.flatten = line ∧ length = line.length ∧ length < m ∧
      u = before line u'.gap ∧ View s' u' := by
  cases h with
  | @exhausted ps s₁ _ hps hflat hlt hr =>
    obtain ⟨u₁, rfl, hs₁⟩ := hV.run hps hs
    obtain ⟨u', rfl, hs'⟩ := hE.gap hs₁ (Nat.sub_pos_of_lt hlt) hr
    refine ⟨ps ++ [[]], u', .snoc hps.reads (Nat.sub_pos_of_lt hlt) hr, ?_, rfl, hlt, ?_, hs'⟩
    · simp [hflat]
    · rw [hflat]

end Scan

/-! ## A search through unread text -/

section Search

variable [Reader ρ ε] {View : ρ → Tape → Prop} {b b' : ReplayBuffer ρ} {u : Tape}

theorem ReplayBuffer.Unread.mark {limit : Nat} {x : Except (ReplayError ε) Unit}
    (hu : Unread View b u) (h : Rewindable.mark limit b = (x, b')) : Unread View b' u := by
  have h : b.mark limit = (x, b') := h
  rw [ReplayBuffer.mark] at h
  split at h
  · cases h
    exact hu
  · cases h
    exact hu

theorem Line.Spilled.unread (hV : Yields View) {o : LineOptions} {cs : List Char}
    (h : Spilled o b cs b') (hu : Unread View b u) :
    ∃ u', u = before cs u' ∧ Unread View b' u' := by
  induction h generalizing u with
  | nil => exact ⟨u, rfl, hu⟩
  | @cons b b₁ b₂ b₃ line cs hmark _ hfull _ ih =>
    obtain ⟨ps, hps, rfl, -⟩ := hfull.full_inv
    obtain ⟨u₁, rfl, hu₁⟩ := (ReplayBuffer.unread_yields hV).run hps (hu.mark hmark)
    obtain ⟨u₂, rfl, hu₂⟩ := ih hu₁
    exact ⟨u₂, (Tape.before_append _ _ _).symm, hu₂⟩

variable {w w' : LineScanner (ReplayBuffer ρ)}
  (hcapacity : w.options.maxLineLength + 1 ≤ w.source.capacity)
  (hcount : w.source.capacity ≤ Count.largest)
include hcapacity hcount

theorem readAhead_eq : w.options.readAhead = w.options.maxLineLength + 1 :=
  Count.next_eq (Nat.lt_of_lt_of_le hcapacity hcount)

theorem source_replays : Replays (σ := ReplayBuffer ρ) w.options.readAhead w.options.readAhead
    ReplayError.read (ReplayBuffer.At w.source.capacity w.options.readAhead) := by
  apply replayBuffer_replays
  rw [readAhead_eq hcapacity hcount]
  exact hcapacity

/-- **A search that answers** has taken full buffers from the front of the unread text, and scanned
one more under a mark. -/
theorem find_unread (hV : Yields View) (hu : Unread View w.source u) {fuel : Nat}
    {buf : Array Char} {x : Except (ReplayError ε) (Option Found)}
    (h : Line.find w.options fuel "" w.buffer w.source = some (x, buf, b')) :
    ∃ cs b ahead r u' line y, Unbroken cs ∧ (∃ k, cs.length = k * w.options.maxLineLength) ∧
      u = before cs u' ∧ Unread View b u' ∧
      ReplayBuffer.At w.source.capacity w.options.readAhead b (some []) ahead r ∧ Unbroken line ∧
      buf.toList.take line.length = line ∧ Scanned w.options.maxLineLength b line y b' ∧
      Concludes (String.ofList cs) y x := by
  have hR := source_replays (ε := ε) hcapacity hcount
  have hahead := readAhead_eq hcapacity hcount
  have hat := w.source.holds.unmarked w.options.readAhead
  obtain ⟨-, cs, ahead, r, b, line, y, -, -, hun₁, hcount, hat, hun, hbuf, hs, hconc, b₀, hspill,
    hmark⟩ := hR.searched rfl (by omega) hat h
  obtain ⟨u', hu, hu₀⟩ := hspill.unread hV hu
  exact ⟨cs, b, ahead, r, u', line, y, hun₁, hcount, hu, hu₀.mark hmark, hat, hun, hbuf, hs, hconc⟩

/-- **A rewind** puts what was handed out since the mark back in front of what is unread. -/
theorem rewind_unread {b : ReplayBuffer ρ} {handed ahead : List Char} {r : ρ}
    (hat : ReplayBuffer.At w.source.capacity w.options.readAhead b (some handed) ahead r)
    (hu : Unread View b u) :
    ∃ b' v rest, Rewindable.rewind b = (.ok (), b') ∧ b'.capacity = w.source.capacity ∧
      View b'.inner v ∧ b'.pending = handed ++ rest ∧ u = before rest v := by
  obtain ⟨b', hrewind, hat'⟩ := (source_replays (ε := ε) hcapacity hcount).rewind hat
  obtain ⟨v, hv, rfl⟩ := hu
  refine ⟨b', v, ahead, hrewind, hat'.capacity, ?_, hat'.pending, ?_⟩
  · rw [hat'.inner, ← hat.inner]
    exact hv
  · rw [hat.pending]

/-- A rewind and a skip over a line leave what was read too much in front of what is unread. -/
theorem take_unread {b : ReplayBuffer ρ} {ahead : List Char} {r : ρ} {ps : List (List Char)}
    {u : Tape} (hat : ReplayBuffer.At w.source.capacity w.options.readAhead b (some []) ahead r)
    (hps : Reads b ps b') (hle : ps.flatten.length ≤ w.options.maxLineLength + 1)
    (hu : Unread View b' u) {taken : Nat} (htaken : taken ≤ ps.flatten.length) (cs : List Char)
    {line : List Char} {buf : Array Char} (hbuf : buf.toList.take line.length = line) :
    ∃ b'', Found.take ⟨String.ofList cs, line.length, taken⟩ buf b'
        = (.ok (String.ofList (cs ++ line)), b'') ∧
      Unread View b'' (before (ps.flatten.drop taken) u) := by
  have hR := source_replays (ε := ε) hcapacity hcount
  rw [← readAhead_eq hcapacity hcount] at hle
  obtain ⟨-, ahead', r', -, -, -, hat'⟩ := hR.reads hps hat hle
  obtain ⟨b₁, v, rest, hrewind, -, hv, hpending, rfl⟩ := rewind_unread hcapacity hcount hat' hu
  rw [List.nil_append] at hpending
  have hskippable : taken ≤ b₁.pending.length := by
    rw [hpending, List.length_append]
    omega
  obtain ⟨b₂, hskip, hinner, -, hpending₂⟩ := ReplayBuffer.skip_pending (ε := ε) hskippable
  refine ⟨b₂, ?_, v, ?_, ?_⟩
  · simp [Found.take, hrewind, hskip, Line.text_eq, hbuf, String.ofList_append]
  · rw [hinner]
    exact hv
  · rw [hpending₂, hpending, List.drop_append_of_le_length htaken, Tape.before_append]

/-! ## One call -/

theorem lookahead_supported : ¬ Rewindable.lookahead w.source < w.options.readAhead := by
  rw [readAhead_eq hcapacity hcount]
  exact Nat.not_lt.2 hcapacity

/-- **A call that fails** has taken full buffers and some characters more, and a rewind puts back
the latter. -/
theorem nextLine_failed (hV : Yields View) (hu : Unread View w.source u) {fuel : Nat} {e : ε}
    (h : w.nextLine fuel = some (.error (.source (.read e)), w')) :
    ∃ cs line kept u', Unbroken cs ∧ (∃ k, cs.length = k * w.options.maxLineLength) ∧
      Unbroken line ∧ line.length < w.options.maxLineLength ∧
      kept.length ≤ w.options.maxLineLength ∧ (kept = line ∨ kept = line ++ ['\r']) ∧
      u = before (cs ++ kept) u' ∧ Unread View w'.source u' ∧ w'.options = w.options ∧
      w'.source.capacity = w.source.capacity ∧
      ∃ b, Rewindable.rewind w'.source = (.ok (), b) ∧ b.capacity = w.source.capacity ∧
        Unread View b (before kept u') := by
  cases hfind : Line.find w.options fuel "" w.buffer w.source with
  | none =>
    rw [LineScanner.nextLine, if_neg (lookahead_supported hcapacity hcount), hfind] at h
    cases h
  | some out =>
    obtain ⟨x, buf, b'⟩ := out
    rcases x with e' | _ | found
    · rw [LineScanner.nextLine, if_neg (lookahead_supported hcapacity hcount), hfind] at h
      cases h
      obtain ⟨cs, b, ahead, r, u₁, line, y, hun₁, hcs, rfl, hu₁, hat, hun, -, hs, hconc⟩ :=
        find_unread hcapacity hcount hV hu hfind
      cases hconc
      obtain ⟨ps, b₁, hps, hf, hlt, hle, hkept⟩ := hs.error_inv (fun _ => rfl)
      have hV' := ReplayBuffer.unread_yields hV
      obtain ⟨u', rfl, hu₂⟩ := hV'.run hps hu₁
      have hu' : Unread View b' u' := hV'.fails hu₂ hf
      have hle' : ps.flatten.length ≤ w.options.readAhead := by
        rw [readAhead_eq hcapacity hcount]
        exact Nat.le_succ_of_le hle
      have hR := source_replays (ε := ε) hcapacity hcount
      obtain ⟨-, ahead', r', -, -, -, hat₁⟩ := hR.reads hps.reads hat hle'
      obtain ⟨-, r'', -, -, -, hat'⟩ := hR.failed hat₁ hf
      obtain ⟨b₂, v, rest, hrewind, hsame, hv, hpending, hrest⟩ :=
        rewind_unread hcapacity hcount hat' hu'
      rw [List.nil_append] at hpending
      refine ⟨cs, line, ps.flatten, u', hun₁, hcs, hun, hlt, hle, hkept,
        (Tape.before_append _ _ _).symm, hu', rfl, hat'.capacity, b₂, hrewind, hsame, v, hv, ?_⟩
      rw [hpending, hrest, Tape.before_append]
    · rw [LineScanner.nextLine, if_neg (lookahead_supported hcapacity hcount), hfind] at h
      cases h
    · obtain ⟨b₁, b₂, -, -, -, -, hline⟩ := take_replayed hcapacity hcount hfind
      rw [hline] at h
      cases h

/-- **A call that does not fail** reads the first line of the unread text. -/
theorem nextLine_reads (hV : Yields View) (hE : ReportsEnds View) (hu : Unread View w.source u)
    {fuel : Nat} {l : Option String} (h : w.nextLine fuel = some (.ok l, w')) :
    ∃ v, LineAt u l v ∧ Unread View w'.source v := by
  rw [LineScanner.nextLine, if_neg (lookahead_supported hcapacity hcount)] at h
  cases hfind : Line.find w.options fuel "" w.buffer w.source with
  | none =>
    rw [hfind] at h
    cases h
  | some out =>
    obtain ⟨x, buf, b'⟩ := out
    rw [hfind] at h
    obtain ⟨cs, b, ahead, r, u₁, line, y, hun₁, -, rfl, hu₁, hat, hun, hbuf, hs, hconc⟩ :=
      find_unread hcapacity hcount hV hu hfind
    have hV' := ReplayBuffer.unread_yields hV
    have hE' := ReplayBuffer.unread_reportsEnds hE
    cases hconc with
    | error e => cases h
    | terminated length taken =>
      obtain ⟨ps, v, u', hps, hle, rfl, htaken, rfl, hstop, hhead, hu', hbehind⟩ :=
        hs.terminated_unread hV' hE' (fun _ => rfl) hu₁
      obtain ⟨b'', htake, hu''⟩ := take_unread hcapacity hcount hat hps hle hu' htaken cs hbuf
      simp only [htake] at h
      cases h
      rw [← hbehind] at hu''
      rw [← Tape.before_append]
      refine ⟨v.behind, .line (hun₁.append hun) hstop ?_, hu''⟩
      rintro ⟨-, hnone⟩
      exact hhead hnone
    | last length hne =>
      obtain ⟨ps, u', hps, rfl, rfl, hlt, rfl, hu'⟩ := hs.exhausted_unread hV' hE' hu₁
      obtain ⟨b'', htake, hu''⟩ :=
        take_unread hcapacity hcount hat hps (by omega) hu' (Nat.le_refl _) cs hbuf
      simp only [htake] at h
      cases h
      rw [List.drop_length, Tape.before_nil] at hu''
      have hline : ¬ (cs ++ ps.flatten = [] ∧ u'.gap.head = none) := by
        rintro ⟨hnil, -⟩
        obtain ⟨rfl, hflat⟩ := List.append_eq_nil_iff.1 hnil
        exact hne ⟨List.length_eq_zero_iff.2 hflat, rfl⟩
      have hline := LineAt.line (hun₁.append hun) u'.atStop_gap hline
      rw [Tape.before_append, Tape.behind_gap] at hline
      exact ⟨u', hline, hu''⟩
    | nothing hempty =>
      obtain ⟨ps, u', hps, rfl, hlength, hlt, rfl, hu'⟩ := hs.exhausted_unread hV' hE' hu₁
      cases h
      have hcs : cs = [] := by simpa using hempty
      rw [hcs, List.length_eq_zero_iff.1 hlength.symm]
      exact ⟨u', .nothing, hu'⟩

/-- The scanner goes on at the front of `u`. If it reads a line, then the first of `u`; and any
scanner that has `u` unread, and reads a line, reads the same and leaves the same unread. -/
def GoesOnAt (View : ρ → Tape → Prop) (w : LineScanner (ReplayBuffer ρ)) (u : Tape) : Prop :=
  ∀ fuel l w', w.nextLine fuel = some (.ok l, w') →
    ∃ v, LineAt u l v ∧ Unread View w'.source v ∧
      ∀ (w₁ w₁' : LineScanner (ReplayBuffer ρ)) fuel₁ l₁,
        w₁.options.maxLineLength + 1 ≤ w₁.source.capacity → w₁.source.capacity ≤ Count.largest →
        Unread View w₁.source u → w₁.nextLine fuel₁ = some (.ok l₁, w₁') →
        l₁ = l ∧ Unread View w₁'.source v

theorem goesOnAt (hV : Yields View) (hE : ReportsEnds View) (hu : Unread View w.source u) :
    GoesOnAt View w u := by
  intro fuel l w' h
  obtain ⟨v, hline, hu'⟩ := nextLine_reads hcapacity hcount hV hE hu h
  refine ⟨v, hline, hu', ?_⟩
  intro w₁ w₁' fuel₁ l₁ hcapacity₁ hcount₁ hu₁ h₁
  obtain ⟨v₁, hline₁, hu₁'⟩ := nextLine_reads hcapacity₁ hcount₁ hV hE hu₁ h₁
  obtain ⟨rfl, rfl⟩ := hline₁.unique hline
  exact ⟨rfl, hu₁'⟩

/-- **A failure can be taken back.** A call that fails with the reader has taken some full buffers
of what was unread, and at most one buffer more. A rewind then succeeds and puts all but the full
buffers back, and a call that does not fail goes on from there as though there had been no failure.
Without the rewind, the next line begins where the call had stopped. -/
theorem nextLine_recovers (hV : Yields View) (hu : Unread View w.source u) {fuel : Nat} {e : ε}
    (h : w.nextLine fuel = some (.error (.source (.read e)), w')) :
    let max := w.options.maxLineLength
    ∃ (k r : Nat) (taken : List Char) (w₁ : LineScanner (ReplayBuffer ρ)),
      (taken.length = k * max + r ∧ r ≤ max ∧ u = before taken (u.drop (k * max + r)) ∧
        Unbroken (taken.take (k * max)) ∧ k = (taken.takeWhile (!isBreak ·)).length / max) ∧
      Unread View w'.source (u.drop (k * max + r)) ∧
      Rewindable.rewind w' = (.ok (), w₁) ∧ Unread View w₁.source (u.drop (k * max)) ∧
      (ReportsEnds View →
        GoesOnAt View w₁ (u.drop (k * max)) ∧ GoesOnAt View w' (u.drop (k * max + r))) := by
  intro max
  obtain ⟨cs, line, kept, u', hcs, ⟨k, hk⟩, hline, hlt, hle, hkept, rfl, hu', hoptions, hsame, b,
    hrewind, hsame', hb⟩ := nextLine_failed hcapacity hcount hV hu h
  have hdrop : (before (cs ++ kept) u').drop (k * max + kept.length) = u' := by
    rw [← hk, ← List.length_append, Tape.drop_before]
  have hdrop₁ : (before (cs ++ kept) u').drop (k * max) = before kept u' := by
    rw [← hk, Tape.before_append, Tape.drop_before]
  have hfront : (cs ++ kept).takeWhile (!isBreak ·) = cs ++ line := by
    have hun : ∀ c ∈ cs ++ line, (!isBreak c) = true := by
      intro c hc
      rw [Line.unbroken_iff_isBreak.1 (hcs.append hline) c hc]
      rfl
    rcases hkept with rfl | rfl
    · rw [← List.append_nil (cs ++ kept), List.takeWhile_append_of_pos hun]
      rfl
    · rw [← List.append_assoc, List.takeWhile_append_of_pos hun]
      exact List.append_nil _
  rw [← hdrop] at hu'
  rw [← hdrop₁] at hb
  refine ⟨k, kept.length, cs ++ kept, { w' with source := b }, ⟨?_, hle, ?_, ?_, ?_⟩, hu', ?_, ?_,
    ?_⟩
  · rw [List.length_append, hk]
  · rw [hdrop]
  · rw [← hk, List.take_left]
    exact hcs
  · rw [hfront, List.length_append, hk, Nat.add_comm, Nat.add_mul_div_right _ _ w.options.positive,
      Nat.div_eq_of_lt hlt, Nat.zero_add]
  · exact congrArg (fun x => (x.1, { w' with source := x.2 })) hrewind
  · exact hb
  · intro hE
    refine ⟨goesOnAt ?_ ?_ hV hE hb, goesOnAt ?_ ?_ hV hE hu'⟩
    · show w'.options.maxLineLength + 1 ≤ b.capacity
      rw [hoptions, hsame']
      exact hcapacity
    · exact Nat.le_trans (Nat.le_of_eq hsame') hcount
    · rw [hoptions, hsame]
      exact hcapacity
    · exact Nat.le_trans (Nat.le_of_eq hsame) hcount

end Search

/-- A carriage return at the end of the second buffer, and a reader that fails where the scanner
looks for a line feed behind it. -/
theorem nextLine_recovers_carriage_return :
    let script : ByteScript := [.bytes [0x61, 0x62, 0x63, 0x0D], .fault ⟨.other, "gone"⟩,
      .bytes [0x0A, 0x64]]
    let inner : DecodedReader .own := .ofEncoding script .utf8
    let w : LineScanner (ReplayBuffer (DecodedReader .own)) :=
      { source := { inner, capacity := 3 }, options := ⟨2, by decide⟩ }
    let u := Tape.ofText ['a', 'b', 'c', '\r', '\n', 'd']
    ∃ (w' w₁ : LineScanner (ReplayBuffer (DecodedReader .own))) (k r : Nat) (taken : List Char),
      w.nextLine 8 = some (.error (.source (.read ⟨.other, "gone"⟩)), w') ∧
      (taken.length = k * 2 + r ∧ u = before taken (u.drop (k * 2 + r)) ∧
        k = (taken.takeWhile (!isBreak ·)).length / 2) ∧
      Rewindable.rewind w' = (.ok (), w₁) ∧
      (∃ v, LineAt (u.drop (k * 2)) (some "c") v) ∧
      ∃ v, LineAt (u.drop (k * 2 + r)) (some "") v := by
  intro script inner w u
  have hsupplies := DecodedReader.supplies EncodingLibrary.own_streams
    (EncodingLibrary.own_suffices DecodedReader.chunkSize)
  have hinner : inner.Owes ['a', 'b', 'c', '\r', '\n', 'd'] :=
    ⟨[], ⟨[], rfl, rfl⟩, by decide +kernel⟩
  have hu : Unread (OnTape DecodedReader.Owes) w.source u := ⟨u, ⟨_, hinner, rfl⟩, rfl⟩
  have hcall : (w.nextLine 8).map (·.1) = some (.error (.source (.read ⟨.other, "gone"⟩))) := by
    decide +kernel
  have hrewound : ((w.nextLine 8).bind fun x => (Rewindable.rewind x.2).2.nextLine 8).map (·.1)
      = some (.ok (some "c")) := by
    decide +kernel
  have hnext : ((w.nextLine 8).bind fun x => x.2.nextLine 8).map (·.1) = some (.ok (some "")) := by
    decide +kernel
  obtain ⟨⟨x, w'⟩, h, rfl⟩ := Option.map_eq_some_iff.1 hcall
  rw [h] at hrewound hnext
  obtain ⟨⟨x₁, w₂⟩, h₂, rfl⟩ := Option.map_eq_some_iff.1 hrewound
  obtain ⟨⟨x₃, w₃⟩, h₃, rfl⟩ := Option.map_eq_some_iff.1 hnext
  obtain ⟨k, r, taken, w₁, ⟨hlength, -, htaken, -, hk⟩, -, hrewind, -, hgo⟩ :=
    nextLine_recovers (by decide) (by decide) hsupplies.yields hu h
  obtain ⟨hback, hon⟩ := hgo hsupplies.reportsEnds
  rw [Option.bind_some, hrewind] at h₂
  obtain ⟨v, hline, -⟩ := hback 8 _ _ h₂
  obtain ⟨v', hline', -⟩ := hon 8 _ _ h₃
  exact ⟨w', w₁, k, r, taken, h, ⟨hlength, htaken, hk⟩, hrewind, ⟨v, hline⟩, v', hline'⟩

end CharStream
