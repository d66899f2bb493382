import CharStream.Proofs.Delivers
import CharStream.Proofs.Replaying

/-!
# Reading one line

A scanner looks ahead, rewinds, and skips. What remains of all this is simple, and `LineRead` says
it for every source that replays a reader: the line and its terminator are taken from the front of
what the source had ahead and fetched meanwhile, and nothing else is.

* `nextLine_cases` — a call that returns has read a line, is at the end, or failed because the
  reader did.
* `nextLine_none` — a call that does not return has met at least as many characters of one line as
  it had fuel.
-/

namespace CharStream

open Line (Unbroken Terminator Spilled Scanned Concludes Found)

variable {σ ρ ε ε' : Type}

/-! ## The end of a line -/

/-- `t` ends a line in front of `ahead`, as far as the pieces `ps` tell: a terminator that is plain
from what is ahead, a carriage return at the end of the stream, or the end itself. -/
inductive LineEnd (ps : List (List Char)) : List Char → List Char → Prop
  | terminator {t ahead : List Char} : Terminator t ahead → LineEnd ps t ahead
  | closing : Ended ps → LineEnd ps ['\r'] []
  | last : Ended ps → LineEnd ps [] []

theorem Line.Terminator.append {t rest : List Char} (h : Terminator t rest) (cs : List Char) :
    Terminator t (rest ++ cs) := by
  cases h with
  | lf => exact .lf _
  | crlf => exact .crlf _
  | cr rest hc => exact .cr (rest ++ cs) hc

/-- The end of a line stays one when the reads `ps` of a source come from the reads `qs` below it,
which left `ahead` over. -/
theorem LineEnd.below {ps qs : List (List Char)} {t rest ahead : List Char} (h : LineEnd ps t rest)
    (hend : Ended ps → ahead = [] ∧ Ended qs) : LineEnd qs t (rest ++ ahead) := by
  cases h with
  | terminator ht => exact .terminator (ht.append ahead)
  | closing hps =>
    obtain ⟨rfl, hqs⟩ := hend hps
    exact .closing hqs
  | last hps =>
    obtain ⟨rfl, hqs⟩ := hend hps
    exact .last hqs

theorem LineEnd.append {ps : List (List Char)} {t ahead : List Char} (h : LineEnd ps t ahead)
    (qs : List (List Char)) : LineEnd (qs ++ ps) t ahead := by
  cases h with
  | terminator ht => exact .terminator ht
  | closing hps => exact .closing (hps.append qs)
  | last hps => exact .last (hps.append qs)

/-! ## The outcomes of a scan -/

section Scan

variable [Reader σ ε] {m : Nat} {s s' : σ} {line : List Char}

theorem Line.Scanned.terminated (hone : ∀ s : σ, Reader.readChar s = readOne Reader.read s)
    {length taken : Nat} (h : Scanned m s line (.ok (.terminated length taken)) s') :
    ∃ ps t rest, Reads s ps s' ∧ ps.flatten = line ++ t ++ rest ∧ ps.flatten.length ≤ m + 1 ∧
      length = line.length ∧ taken = line.length + t.length ∧ t ≠ [] ∧ LineEnd ps t rest := by
  cases h with
  | @found ps t rest _ hps hflat ht hle =>
    exact ⟨ps, t, rest, hps.reads, hflat, Nat.le_succ_of_le hle, rfl, rfl, by cases ht <;> simp,
      .terminator ht⟩
  | @closing ps next s₁ _ hps hflat hle hr =>
    rcases readOne_cases (hone s₁ ▸ hr) with ⟨next', hx, hnext⟩ | ⟨e, hx, -⟩
    · obtain rfl := Except.ok.inj hx
      have hps' := hps.reads.trans hnext
      have hflat' : (ps ++ [next.toList]).flatten = line ++ ['\r'] ++ next.toList := by simp [hflat]
      have hle' : (ps ++ [next.toList]).flatten.length ≤ m + 1 := by
        have hone : next.toList.length ≤ 1 := by cases next <;> simp
        rw [List.flatten_append, List.length_append]
        simp only [List.flatten_cons, List.flatten_nil, List.append_nil]
        omega
      match next with
      | none => exact ⟨_, ['\r'], [], hps', hflat', hle', rfl, rfl, by simp, .closing (by simp)⟩
      | some c =>
        by_cases hc : c = '\n'
        · subst hc
          exact ⟨_, ['\r', '\n'], [], hps', by simpa using hflat', hle', rfl, by simp, by simp,
            .terminator (.crlf [])⟩
        · refine ⟨_, ['\r'], [c], hps', hflat', hle', rfl, ?_, by simp, .terminator (.cr [] hc)⟩
          rw [if_neg (by simpa using hc)]
          rfl
    · cases hx

theorem Line.Scanned.exhausted_inv {length : Nat}
    (h : Scanned m s line (.ok (.exhausted length)) s') :
    ∃ ps, Reads s ps s' ∧ ps.flatten = line ∧ length = line.length ∧ length < m ∧ Ended ps := by
  cases h with
  | @exhausted ps s₁ _ hps hflat hlt hr =>
    exact ⟨ps ++ [[]], .snoc hps.reads (Nat.sub_pos_of_lt hlt) hr, by simp [hflat], rfl, hlt,
      by simp⟩

theorem Line.Scanned.error_inv (hone : ∀ s : σ, Reader.readChar s = readOne Reader.read s) {e : ε}
    (h : Scanned m s line (.error e) s') :
    ∃ ps s₁, Brings s ps s₁ ∧ Fails s₁ e s' ∧ line.length < m ∧ ps.flatten.length ≤ m ∧
      (ps.flatten = line ∨ ps.flatten = line ++ ['\r']) := by
  cases h with
  | @failed ps _ s₁ _ hps hflat hlt hr =>
    exact ⟨ps, s₁, hps, ⟨_, Nat.sub_pos_of_lt hlt, hr⟩, hlt, hflat ▸ Nat.le_of_lt hlt, .inl hflat⟩
  | @closingFailed ps _ s₁ _ hps hflat hle hr =>
    rcases readOne_cases (hone s₁ ▸ hr) with ⟨next, hx, -⟩ | ⟨e', hx, hf⟩
    · cases hx
    · obtain rfl := Except.error.inj hx
      have hlt : line.length < m := by
        rw [hflat, List.length_append] at hle
        exact hle
      exact ⟨ps, s₁, hps, hf, hlt, hle, .inr hflat⟩

/-- **The last scan of a search** finds a line and its end, or nothing at all, or it fails. -/
theorem Line.Scanned.concluded (hone : ∀ s : σ, Reader.readChar s = readOne Reader.read s)
    {cs : List Char} {y : Except ε Line.ScanEnd} {x : Except ε (Option Found)}
    (hs : Scanned m s line y s') (hx : Concludes (String.ofList cs) y x) :
    (∃ ps t rest, x = .ok (some ⟨String.ofList cs, line.length, line.length + t.length⟩) ∧
        Reads s ps s' ∧ ps.flatten = line ++ t ++ rest ∧ ps.flatten.length ≤ m + 1 ∧
        LineEnd ps t rest ∧ cs ++ line ++ t ≠ []) ∨
      (∃ ps, x = .ok none ∧ Reads s ps s' ∧ ps.flatten = [] ∧ Ended ps ∧ cs = []) ∨
      ∃ e ps s₁, x = .error e ∧ Reads s ps s₁ ∧ Fails s₁ e s' ∧ ps.flatten.length ≤ m ∧
        (ps.flatten = line ∨ ps.flatten = line ++ ['\r']) := by
  cases hx with
  | error e =>
    obtain ⟨ps, s₁, hps, hf, -, hle, hflat⟩ := hs.error_inv hone
    exact .inr (.inr ⟨e, ps, s₁, rfl, hps.reads, hf, hle, hflat⟩)
  | terminated length taken =>
    obtain ⟨ps, t, rest, hps, hflat, hle, rfl, rfl, ht, hend⟩ := hs.terminated hone
    exact .inl ⟨ps, t, rest, rfl, hps, hflat, hle, hend, by simp [ht]⟩
  | last length hne =>
    obtain ⟨ps, hps, rfl, rfl, hlt, hended⟩ := hs.exhausted_inv
    refine .inl ⟨ps, [], [], rfl, hps, by simp, by omega, .last hended, fun hnil => hne ?_⟩
    simp only [List.append_eq_nil_iff, and_true] at hnil
    exact ⟨by rw [hnil.2]; rfl, by simp [hnil.1]⟩
  | nothing hempty =>
    obtain ⟨ps, hps, rfl, hlen, -, hended⟩ := hs.exhausted_inv
    refine .inr (.inl ⟨ps, rfl, hps, List.length_eq_zero_iff.1 hlen.symm, hended, ?_⟩)
    simpa using hempty

end Scan

/-! ## One call -/

/-- What one call makes of a source with `ahead` in front of the reader `r`: the answer, what it
has handed out since the mark (if that is known), what is ahead then, and the reader. -/
inductive LineRead [Reader ρ ε] (wrap : ε → ε') (max : Nat) (ahead : List Char) (r : ρ) :
    Except (LineError ε') (Option String) → Option (List Char) → List Char → ρ → Prop
  /-- A line with its terminator `t` was taken. -/
  | line {ps : List (List Char)} {line t ahead' : List Char} {handed : Option (List Char)}
      {r' : ρ} :
      Reads r ps r' → ahead ++ ps.flatten = line ++ t ++ ahead' → Unbroken line → line ++ t ≠ [] →
      LineEnd ps t ahead' →
      LineRead wrap max ahead r (.ok (some (String.ofList line))) handed ahead' r'
  /-- There was nothing to take. -/
  | nothing {ps : List (List Char)} {handed : Option (List Char)} {r' : ρ} :
      Reads r ps r' → ahead = [] → ps.flatten = [] → Ended ps →
      LineRead wrap max ahead r (.ok none) handed [] r'
  /-- The reader failed. What came before is no whole line; of it, the `k` full buffers are gone and
  the rest is kept for a rewind. -/
  | failed {ps : List (List Char)} {e : ε} {k : Nat} {spilled kept : List Char} {r₁ r' : ρ} :
      Reads r ps r₁ → Fails r₁ e r' → ahead ++ ps.flatten = spilled ++ kept →
      Unbroken spilled → spilled.length = k * max → kept.length ≤ max →
      (Unbroken kept ∨ ∃ line, kept = line ++ ['\r'] ∧ Unbroken line) →
      LineRead wrap max ahead r (.error (.source (wrap e))) (some kept) [] r'

section Source

variable [Rewindable σ ε'] [Reader ρ ε] {limit bound : Nat} {wrap : ε → ε'}
  {At : σ → Option (List Char) → List Char → ρ → Prop}

/-- **A search that answers** has taken full buffers `cs` and then, under a mark that is granted,
scanned one more, which did not fill up. -/
theorem Replays.searched (hR : Replays limit bound wrap At) {o : LineOptions} {fuel : Nat}
    {buf buf' : Array Char} {s s' : σ} {x : Except ε' (Option Found)} (hlimit : o.readAhead = limit)
    (hm : o.maxLineLength ≤ bound) {handed : Option (List Char)} {ahead : List Char} {r : ρ}
    (hat : At s handed ahead r) (h : Line.find o fuel "" buf s = some (x, buf', s')) :
    ∃ qs cs ahead₁ r₁ s₁ line y, Reads r qs r₁ ∧ ahead ++ qs.flatten = cs ++ ahead₁ ∧
      Unbroken cs ∧ (∃ k, cs.length = k * o.maxLineLength) ∧ At s₁ (some []) ahead₁ r₁ ∧
      Unbroken line ∧ buf'.toList.take line.length = line ∧
      Scanned o.maxLineLength s₁ line y s' ∧ Concludes (String.ofList cs) y x ∧
      ∃ s₀, Spilled o s cs s₀ ∧ Rewindable.mark o.readAhead s₀ = (.ok (), s₁) := by
  obtain ⟨cs, s₁, hspill, hlast⟩ := Line.find_cases h
  obtain ⟨qs, handed₁, ahead₁, r₁, hqs, hcons, hat₁⟩ := hR.spilled hlimit hm hspill hat
  obtain ⟨s₂, hmark, hat₂⟩ := hR.mark hat₁
  -- The last mark is granted like the others, so it is a scan that ended the search.
  rcases hlast with ⟨e, hmark', -⟩ | ⟨s₂', line, y, hmark', hun, hbuf, hs, hconc⟩
  · rw [hlimit, hmark] at hmark'
    cases hmark'
  · rw [hlimit, hmark] at hmark'
    obtain rfl := (Prod.mk.inj hmark').2
    rw [String.empty_append] at hconc
    rw [← hlimit] at hmark
    exact ⟨qs, cs, ahead₁, r₁, s₂, line, y, hqs, hcons, hspill.unbroken, hspill.length, hat₂, hun,
      hbuf, hs, hconc, s₁, hspill, hmark⟩

/-- A mark outlasts the search that finds a line, and what was handed out since covers the line. -/
theorem Replays.covers (hR : Replays limit bound wrap At) {o : LineOptions} {fuel : Nat}
    {buf buf' : Array Char} {s s' : σ} {found : Found} (hlimit : o.readAhead = limit)
    (hm : o.maxLineLength < bound) {handed : Option (List Char)} {ahead : List Char} {r : ρ}
    (hat : At s handed ahead r)
    (h : Line.find o fuel "" buf s = some (.ok (some found), buf', s')) :
    ∃ handed' ahead' r', At s' (some handed') ahead' r' ∧ found.taken ≤ handed'.length := by
  obtain ⟨-, cs, ahead₁, r₁, s₁, line, y, -, -, -, -, hat₁, -, -, hs, hconc, -⟩ :=
    hR.searched hlimit (Nat.le_of_lt hm) hat h
  rcases hs.concluded hR.readChar hconc with
    ⟨ps, t, rest, hx, hps, hflat, hle, -, -⟩ | ⟨ps, hx, -⟩ | ⟨e, ps, s₂, hx, -⟩
  · obtain rfl := Option.some.inj (Except.ok.inj hx)
    obtain ⟨-, ahead', r', -, -, -, hat'⟩ := hR.reads hps hat₁ (by rw [List.nil_append]; omega)
    refine ⟨_, ahead', r', hat', ?_⟩
    rw [List.nil_append, hflat, List.length_append, List.length_append]
    exact Nat.le_add_right _ _
  · cases hx
  · cases hx

/-- **Rewinding and skipping** after reads that began with `line` and its end `t` leaves the source
right behind them. -/
theorem Replays.take (hR : Replays limit bound wrap At) {s s' : σ} {ps : List (List Char)}
    {line t rest ahead : List Char} {r : ρ} {buf : Array Char} (spilled : String)
    (hat : At s (some []) ahead r) (hps : Reads s ps s') (hflat : ps.flatten = line ++ t ++ rest)
    (hle : ps.flatten.length ≤ bound) (hend : LineEnd ps t rest)
    (hbuf : buf.toList.take line.length = line) :
    ∃ s'' handed ahead' qs r', Found.take ⟨spilled, line.length, line.length + t.length⟩ buf s'
        = (.ok (spilled ++ String.ofList line), s'') ∧ At s'' handed ahead' r' ∧ Reads r qs r' ∧
        ahead ++ qs.flatten = line ++ t ++ ahead' ∧ LineEnd qs t ahead' := by
  obtain ⟨qs, a, r', hqs, hcons, hended, hat'⟩ := hR.reads hps hat hle
  obtain ⟨s₁, hrewind, hat₁⟩ := hR.rewind hat'
  rw [List.nil_append, hflat] at hat₁
  have hlen : line.length + t.length = (line ++ t).length := List.length_append.symm
  obtain ⟨s₂, handed, hskip, hat₂⟩ := hR.skip (k := line.length + t.length) hat₁ (by simp)
  refine ⟨s₂, handed, rest ++ a, qs, r', ?_, ?_, hqs, ?_, hend.below hended⟩
  · simp [Found.take, hrewind, hskip, Line.text_eq, hbuf]
  · rwa [hlen, List.append_assoc, List.append_assoc, ← List.append_assoc, List.drop_left] at hat₂
  · rw [hcons, hflat, List.append_assoc]

/-- **One call that returns** has read a line, is at the end, or failed with the reader; it never
lacks look-ahead, and no skip falls short. -/
theorem nextLine_cases (hR : Replays limit bound wrap At) {fuel : Nat} {w w' : LineScanner σ}
    (hlimit : w.options.readAhead = limit) (hm : w.options.maxLineLength < bound)
    {x : Except (LineError ε') (Option String)} {handed : Option (List Char)} {ahead : List Char}
    {r : ρ} (hat : At w.source handed ahead r) (h : w.nextLine fuel = some (x, w')) :
    w'.options = w.options ∧ ∃ handed' ahead' r', At w'.source handed' ahead' r' ∧
      LineRead wrap w.options.maxLineLength ahead r x handed' ahead' r' := by
  rw [LineScanner.nextLine, if_neg (Nat.not_lt.2 (hlimit ▸ hR.lookahead hat))] at h
  cases hfind : Line.find w.options fuel "" w.buffer w.source with
  | none =>
    rw [hfind] at h
    cases h
  | some out =>
    obtain ⟨y, buf, s'⟩ := out
    rw [hfind] at h
    obtain ⟨qs, cs, a₁, r₁, s₂, line, z, hqs, hcons, hun₁, hcount, hat₂, hun, hbuf, hs, hconc, -⟩ :=
      hR.searched hlimit (Nat.le_of_lt hm) hat hfind
    rcases hs.concluded hR.readChar hconc with
      ⟨ps, t, rest, rfl, hps, hflat, hle, hend, hne⟩ | ⟨ps, rfl, hps, hflat, hended, rfl⟩ |
        ⟨e, ps, s₃, rfl, hps, hf, hle, hflat⟩
    · obtain ⟨s₄, h₂, a₂, qs', r₂, htake, hat₃, hqs', hcons', hend'⟩ :=
        hR.take (String.ofList cs) hat₂ hps hflat (by omega) hend hbuf
      rw [← String.ofList_append] at htake
      simp only [htake] at h
      cases h
      refine ⟨rfl, h₂, a₂, r₂, hat₃, ?_⟩
      refine .line (hqs.trans hqs') ?_ (hun₁.append hun) hne (hend'.append qs)
      rw [through_append hcons hcons', ← List.append_assoc cs]
    · cases h
      obtain ⟨qs', a₂, r₂, hqs', hcons', hended', hat₃⟩ := hR.reads hps hat₂ (by simp [hflat])
      obtain ⟨rfl, hend⟩ := hended' hended
      rw [hflat, List.append_nil, List.append_eq_nil_iff] at hcons'
      obtain ⟨rfl, hqs₀⟩ := hcons'
      rw [List.append_nil, List.append_eq_nil_iff] at hcons
      refine ⟨rfl, _, [], r₂, hat₃, ?_⟩
      exact .nothing (hqs.trans hqs') hcons.1 (by simp [hcons.2, hqs₀]) (hend.append qs)
    · cases h
      obtain ⟨qs', a₂, r₂, hqs', hcons', -, hat₃⟩ :=
        hR.reads hps hat₂ (Nat.le_of_lt (Nat.lt_of_le_of_lt hle hm))
      obtain ⟨e', r₃, rfl, rfl, hf', hat₄⟩ := hR.failed hat₃ hf
      obtain ⟨k, hk⟩ := hcount
      refine ⟨rfl, _, [], r₃, hat₄, ?_⟩
      refine .failed (hqs.trans hqs') hf' ?_ hun₁ hk hle ?_
      · exact (through_append hcons hcons').trans (List.append_nil _)
      · rcases hflat with hflat | hflat
        · exact .inl (hflat ▸ hun)
        · exact .inr ⟨line, hflat, hun⟩

/-- **A call that does not return** has met at least as many characters of one line as it had
fuel: that many buffers, all of them full. -/
theorem nextLine_none (hR : Replays limit bound wrap At) {fuel : Nat} {w : LineScanner σ}
    (hlimit : w.options.readAhead = limit) (hm : w.options.maxLineLength < bound)
    {handed : Option (List Char)} {ahead : List Char} {r : ρ} (hat : At w.source handed ahead r)
    (h : w.nextLine fuel = none) :
    ∃ ps r', Reads r ps r' ∧ fuel ≤ (ahead ++ ps.flatten).length := by
  rw [LineScanner.nextLine, if_neg (Nat.not_lt.2 (hlimit ▸ hR.lookahead hat))] at h
  cases hfind : Line.find w.options fuel "" w.buffer w.source with
  | none =>
    obtain ⟨cs, s₁, hspill, hlen⟩ := Line.find_none hfind
    obtain ⟨ps, -, a, r', hps, hcons, -⟩ := hR.spilled hlimit (Nat.le_of_lt hm) hspill hat
    refine ⟨ps, r', hps, ?_⟩
    have hfuel := Nat.le_mul_of_pos_right fuel w.options.positive
    rw [hcons, List.length_append]
    omega
  | some out =>
    obtain ⟨y, buf, s'⟩ := out
    rw [hfind] at h
    rcases y with e | _ | found
    · cases h
    · cases h
    · cases h

/-- **Enough fuel.** One buffer more than the text has characters is enough for every line of it. -/
theorem nextLine_isSome (hR : Replays limit bound wrap At) {fuel : Nat} {w : LineScanner σ}
    (hlimit : w.options.readAhead = limit) (hm : w.options.maxLineLength < bound)
    {handed : Option (List Char)} {ahead text : List Char} {r : ρ} {stop : Option ε}
    (hat : At w.source handed ahead r) (hr : Delivers r text stop)
    (hfuel : (ahead ++ text).length < fuel) : ∃ x w', w.nextLine fuel = some (x, w') := by
  cases h : w.nextLine fuel with
  | some out => exact ⟨out.1, out.2, rfl⟩
  | none =>
    obtain ⟨ps, r', hps, hlen⟩ := nextLine_none hR hlimit hm hat h
    obtain ⟨text', rfl, -⟩ := hr.reads hps
    simp only [List.length_append] at hlen hfuel
    omega

end Source

/-! ## From call to call -/

namespace Serves

variable [Rewindable σ ε'] [Reader ρ ε] {wrap : ε → ε'} {Supports : LineOptions → Prop}
  {Holds : σ → List Char → ρ → Prop} {fuel : Nat} {w w' : LineScanner σ} {ahead : List Char} {r : ρ}

theorem nextLine_cases (hS : Serves wrap Supports Holds) (ho : Supports w.options)
    (hw : Holds w.source ahead r) {x : Except (LineError ε') (Option String)}
    (h : w.nextLine fuel = some (x, w')) :
    w'.options = w.options ∧ ∃ handed ahead' r', Holds w'.source ahead' r' ∧
      LineRead wrap w.options.maxLineLength ahead r x handed ahead' r' := by
  obtain ⟨bound, At, hm, hR, hiff⟩ := hS.accounts ho
  obtain ⟨handed, hat⟩ := (hiff _ _ _).1 hw
  obtain ⟨hoptions, handed', ahead', r', hat', hline⟩ :=
    CharStream.nextLine_cases hR rfl hm hat h
  exact ⟨hoptions, handed', ahead', r', (hiff _ _ _).2 ⟨handed', hat'⟩, hline⟩

theorem nextLine_none (hS : Serves wrap Supports Holds) (ho : Supports w.options)
    (hw : Holds w.source ahead r) (h : w.nextLine fuel = none) :
    ∃ ps r', Reads r ps r' ∧ fuel ≤ (ahead ++ ps.flatten).length := by
  obtain ⟨bound, At, hm, hR, hiff⟩ := hS.accounts ho
  obtain ⟨handed, hat⟩ := (hiff _ _ _).1 hw
  exact CharStream.nextLine_none hR rfl hm hat h

theorem nextLine_isSome (hS : Serves wrap Supports Holds) (ho : Supports w.options)
    (hw : Holds w.source ahead r) {text : List Char} {stop : Option ε}
    (hr : Delivers r text stop) (hfuel : (ahead ++ text).length < fuel) :
    ∃ x w', w.nextLine fuel = some (x, w') := by
  obtain ⟨bound, At, hm, hR, hiff⟩ := hS.accounts ho
  obtain ⟨handed, hat⟩ := (hiff _ _ _).1 hw
  exact CharStream.nextLine_isSome hR rfl hm hat hr hfuel

end Serves

end CharStream
