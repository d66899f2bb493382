import CharStream.Line.Scanner
import CharStream.Proofs.Scan

/-!
# The search for the end of a line

A search marks the source, scans a buffer, and starts over as long as buffers fill up. `Spilled`
says what the full buffers were; `find_cases` says that a search is a number of full buffers and
then one scan that is not full, and `find_none` that a search which does not get that far has
filled as many buffers as it was allowed. `nextLine_line` puts a line together from such a search,
and `nextLine_more` says that fuel only decides whether there is an answer.
-/

namespace CharStream.Line

variable {σ ε : Type}

/-! ## Full buffers -/

/-- From `s` to `s'` by full buffers, each after a mark; their text together is `cs`. -/
inductive Spilled [Rewindable σ ε] (o : LineOptions) : σ → List Char → σ → Prop
  | nil (s : σ) : Spilled o s [] s
  | cons {s s₁ s₂ s₃ : σ} {line cs : List Char} :
      Rewindable.mark o.readAhead s = (.ok (), s₁) → Unbroken line →
      Scanned o.maxLineLength s₁ line (.ok .full) s₂ → Spilled o s₂ cs s₃ →
      Spilled o s (line ++ cs) s₃

theorem Scanned.full_inv [Reader σ ε] {m : Nat} {s s' : σ} {line : List Char}
    (h : Scanned m s line (.ok .full) s') :
    ∃ ps, Brings s ps s' ∧ ps.flatten = line ∧ line.length = m := by
  cases h with
  | full hps hflat hlen => exact ⟨_, hps, hflat, hlen⟩

theorem Scanned.length_full [Reader σ ε] {m : Nat} {s s' : σ} {line : List Char}
    (h : Scanned m s line (.ok .full) s') : line.length = m := by
  obtain ⟨-, -, -, hlen⟩ := h.full_inv
  exact hlen

theorem Spilled.unbroken [Rewindable σ ε] {o : LineOptions} {s s' : σ} {cs : List Char}
    (h : Spilled o s cs s') : Unbroken cs := by
  induction h with
  | nil => exact unbroken_nil
  | cons _ hun _ _ ih => exact hun.append ih

theorem Spilled.length [Rewindable σ ε] {o : LineOptions} {s s' : σ} {cs : List Char}
    (h : Spilled o s cs s') : ∃ k, cs.length = k * o.maxLineLength := by
  induction h with
  | nil => exact ⟨0, by simp⟩
  | cons _ _ hfull _ ih =>
    obtain ⟨k, hk⟩ := ih
    exact ⟨k + 1, by rw [List.length_append, hfull.length_full, hk, Nat.add_mul, Nat.one_mul,
      Nat.add_comm]⟩

/-! ## The search -/

/-- What the last scan of a search makes of it, after the full buffers `spilled`. -/
inductive Concludes (spilled : String) : Except ε ScanEnd → Except ε (Option Found) → Prop
  | error (e : ε) : Concludes spilled (.error e) (.error e)
  | terminated (length taken : Nat) :
      Concludes spilled (.ok (.terminated length taken)) (.ok (some ⟨spilled, length, taken⟩))
  | last (length : Nat) : ¬ (length = 0 ∧ spilled.isEmpty) →
      Concludes spilled (.ok (.exhausted length)) (.ok (some ⟨spilled, length, length⟩))
  | nothing : spilled.isEmpty → Concludes spilled (.ok (.exhausted 0)) (.ok none)

/-- **A search that answers** is a number of full buffers, and then a mark that fails or a scan that
does not fill the buffer. -/
theorem find_cases [Rewindable σ ε] {o : LineOptions} {fuel : Nat} {spilled : String}
    {buf buf' : Array Char} {s s' : σ} {x : Except ε (Option Found)}
    (h : find o fuel spilled buf s = some (x, buf', s')) :
    ∃ cs s₁, Spilled o s cs s₁ ∧
      ((∃ e, Rewindable.mark o.readAhead s₁ = (.error e, s') ∧ x = .error e) ∨
        ∃ s₂ line y, Rewindable.mark o.readAhead s₁ = (.ok (), s₂) ∧ Unbroken line ∧
          buf'.toList.take line.length = line ∧ Scanned o.maxLineLength s₂ line y s' ∧
          Concludes (spilled ++ String.ofList cs) y x) := by
  induction fuel generalizing spilled buf s with
  | zero => simp [find] at h
  | succ fuel ih =>
    rw [find] at h
    split at h
    · next e s₁ hmark =>
      cases h
      exact ⟨[], s, .nil s, .inl ⟨e, hmark, rfl⟩⟩
    · next s₁ hmark =>
      split at h
      · next e buf₁ s₂ hscan =>
        cases h
        obtain ⟨line, hun, hbuf, hs⟩ := scan_cases hscan
        exact ⟨[], s, .nil s, .inr ⟨s₁, line, _, hmark, hun, hbuf, hs, .error e⟩⟩
      · next length taken buf₁ s₂ hscan =>
        cases h
        obtain ⟨line, hun, hbuf, hs⟩ := scan_cases hscan
        refine ⟨[], s, .nil s, .inr ⟨s₁, line, _, hmark, hun, hbuf, hs, ?_⟩⟩
        simpa using Concludes.terminated (ε := ε) length taken
      · next length buf₁ s₂ hscan =>
        obtain ⟨line, hun, hbuf, hs⟩ := scan_cases hscan
        split at h
        · next hnone =>
          cases h
          obtain ⟨rfl, hempty⟩ := hnone
          refine ⟨[], s, .nil s, .inr ⟨s₁, line, _, hmark, hun, hbuf, hs, ?_⟩⟩
          simpa using Concludes.nothing (ε := ε) hempty
        · next hsome =>
          cases h
          refine ⟨[], s, .nil s, .inr ⟨s₁, line, _, hmark, hun, hbuf, hs, ?_⟩⟩
          simpa using Concludes.last (ε := ε) length hsome
      · next buf₁ s₂ hscan =>
        obtain ⟨line, hun, hbuf, hs⟩ := scan_cases hscan
        obtain ⟨cs, s₃, hspill, hrest⟩ := ih h
        refine ⟨line ++ cs, s₃, .cons hmark hun hs hspill, ?_⟩
        have htext : text buf₁ o.maxLineLength = String.ofList line := by
          rw [text_eq, ← hs.length_full, hbuf]
        rwa [htext, String.append_assoc, ← String.ofList_append] at hrest

/-- **A search that does not answer** has filled all the buffers that it was allowed. -/
theorem find_none [Rewindable σ ε] {o : LineOptions} {fuel : Nat} {spilled : String}
    {buf : Array Char} {s : σ} (h : find o fuel spilled buf s = none) :
    ∃ cs s₁, Spilled o s cs s₁ ∧ cs.length = fuel * o.maxLineLength := by
  induction fuel generalizing spilled buf s with
  | zero => exact ⟨[], s, .nil s, by simp⟩
  | succ fuel ih =>
    rw [find] at h
    split at h
    · cases h
    · next s₁ hmark =>
      split at h
      · cases h
      · cases h
      · split at h <;> cases h
      · next buf₁ s₂ hscan =>
        obtain ⟨line, hun, -, hs⟩ := scan_cases hscan
        obtain ⟨cs, s₃, hspill, hlen⟩ := ih h
        refine ⟨line ++ cs, s₃, .cons hmark hun hs hspill, ?_⟩
        rw [List.length_append, hs.length_full, hlen, Nat.add_mul, Nat.one_mul, Nat.add_comm]

/-! ## A line -/

theorem Scanned.length_terminated [Reader σ ε] {m length taken : Nat} {s s' : σ} {line : List Char}
    (h : Scanned m s line (.ok (.terminated length taken)) s') :
    length = line.length ∧ length < taken := by
  cases h with
  | found hps hflat ht =>
    refine ⟨rfl, Nat.lt_add_of_pos_right ?_⟩
    cases ht <;> simp
  | closing =>
    refine ⟨rfl, ?_⟩
    split <;> omega

theorem Scanned.length_exhausted [Reader σ ε] {m length : Nat} {s s' : σ} {line : List Char}
    (h : Scanned m s line (.ok (.exhausted length)) s') : length = line.length := by
  cases h with
  | exhausted => rfl

/-- A line that is taken is the text of the full buffers and of the last, after a rewind and a skip
that does not fall short. -/
theorem Found.take_ok [Rewindable σ ε] {found : Found} {buf : Array Char} {s s' : σ} {line : String}
    (h : found.take buf s = (.ok line, s')) :
    ∃ s₁, Rewindable.rewind s = (.ok (), s₁) ∧ Reader.skip found.taken s₁ = (.ok found.taken, s') ∧
      line = found.spilled ++ text buf found.length := by
  rw [take] at h
  split at h
  · cases h
  · next s₁ hrewind =>
    split at h
    · cases h
    · next skipped s₂ hskip =>
      split at h
      · next hall =>
        cases h
        exact ⟨s₁, hrewind, by rw [hskip, hall], rfl⟩
      · cases h

/-- **A call that reads a line** takes full buffers, and of one scan more what comes before its end;
then it rewinds, and skips what it took in this scan and what ends the line. -/
theorem nextLine_line [Rewindable σ ε] {w w' : LineScanner σ} {fuel : Nat} {line : String}
    (h : w.nextLine fuel = some (.ok (some line), w')) :
    w'.options = w.options ∧ ∃ cs l e taken s₁ s₂ s₃ s₄, Spilled w.options w.source cs s₁ ∧
      Rewindable.mark w.options.readAhead s₁ = (.ok (), s₂) ∧
      Scanned w.options.maxLineLength s₂ l (.ok e) s₃ ∧ Rewindable.rewind s₃ = (.ok (), s₄) ∧
      Reader.skip taken s₄ = (.ok taken, w'.source) ∧ line = String.ofList (cs ++ l) ∧
      l.length ≤ taken ∧ 0 < cs.length + taken := by
  rw [LineScanner.nextLine] at h
  dsimp only at h
  split at h
  · cases h
  · split at h
    · cases h
    · cases h
    · cases h
    · next found buf s hfind =>
      rcases htake : found.take buf s with ⟨y, s'⟩
      rw [htake] at h
      cases y with
      | error e => cases h
      | ok line' =>
        cases h
        obtain ⟨s₄, hrewind, hskip, hline⟩ := Found.take_ok htake
        obtain ⟨cs, s₁, hspill, ⟨e, -, hx⟩ | ⟨s₂, l, y, hmark, -, hbuf, hs, hconc⟩⟩ :=
          find_cases hfind
        · cases hx
        · rw [String.empty_append] at hconc
          obtain ⟨e, rfl, hspilled, hlength, hle, hpos⟩ : ∃ e, y = .ok e ∧
              found.spilled = String.ofList cs ∧ found.length = l.length ∧
              found.length ≤ found.taken ∧ 0 < cs.length + found.taken := by
            cases hconc with
            | terminated length taken =>
              obtain ⟨hlength, hlt⟩ := hs.length_terminated
              exact ⟨_, rfl, rfl, hlength, Nat.le_of_lt hlt, by dsimp only; omega⟩
            | last length hne =>
              refine ⟨_, rfl, rfl, hs.length_exhausted, Nat.le_refl _, ?_⟩
              -- Nothing at all would have been the end of the stream.
              rw [Nat.pos_iff_ne_zero]
              intro hzero
              obtain ⟨hcs, hlength⟩ := Nat.add_eq_zero_iff.1 hzero
              exact hne ⟨hlength, by rw [List.length_eq_zero_iff.1 hcs]; rfl⟩
          rw [hlength] at hle
          refine ⟨rfl, cs, l, e, found.taken, s₁, s₂, s, s₄, hspill, hmark, hs, hrewind, hskip, ?_,
            hle, hpos⟩
          rw [hline, hspilled, hlength, text_eq, hbuf, String.ofList_append]

/-! ## More fuel -/

theorem find_more [Rewindable σ ε] {o : LineOptions} {fuel : Nat} (more : Nat) {spilled : String}
    {buf : Array Char} {s : σ} {out : Except ε (Option Found) × Array Char × σ}
    (h : find o fuel spilled buf s = some out) :
    find o (fuel + more) spilled buf s = some out := by
  induction fuel generalizing spilled buf s with
  | zero => cases h
  | succ fuel ih =>
    rw [Nat.add_right_comm, find]
    rw [find] at h
    split at h
    · next hmark => exact h
    · next hmark =>
      split at h
      · exact h
      · exact h
      · exact h
      · exact ih h

theorem nextLine_more [Rewindable σ ε] {w : LineScanner σ} {fuel : Nat} (more : Nat)
    {out : Except (LineError ε) (Option String) × LineScanner σ}
    (h : w.nextLine fuel = some out) : w.nextLine (fuel + more) = some out := by
  rw [LineScanner.nextLine] at h ⊢
  dsimp only at h ⊢
  split at h
  · next hlt => rw [if_pos hlt, h]
  · next hle =>
    rw [if_neg hle]
    cases hfind : find w.options fuel "" w.buffer w.source with
    | none =>
      rw [hfind] at h
      cases h
    | some out =>
      rw [hfind] at h
      rw [find_more more hfind]
      exact h

end CharStream.Line
