import CharStream.Line.Scan
import CharStream.Proofs.Reads

/-!
# What a scan does

`Scanned m s line x s'` lists everything that a scan of `m` places can do from the state `s`: find
`line` with its terminator, run into the end of the stream, fill the buffer, or fail. Each case says
which reads were made and what they brought.

The buffer does not occur in it. `scan_cases` shows that what the buffer held before makes no
difference, and that afterwards it begins with `line`.
-/

namespace CharStream.Line

variable {σ ε : Type}

/-! ## Terminators -/

/-- The text holds neither of the two characters that end a line. -/
def Unbroken (cs : List Char) : Prop := ∀ c ∈ cs, c ≠ '\r' ∧ c ≠ '\n'

/-- `t` is a terminator, whole as it stands in front of `rest`. A carriage return is one by itself
only if the next character is known. -/
inductive Terminator : List Char → List Char → Prop
  | lf (rest : List Char) : Terminator ['\n'] rest
  | crlf (rest : List Char) : Terminator ['\r', '\n'] rest
  | cr {c : Char} (rest : List Char) : c ≠ '\n' → Terminator ['\r'] (c :: rest)

theorem isBreak_iff {c : Char} : isBreak c = true ↔ c = '\r' ∨ c = '\n' := by
  simp only [isBreak, Bool.or_eq_true, decide_eq_true_eq]

theorem isBreak_eq_false {c : Char} : isBreak c = false ↔ c ≠ '\r' ∧ c ≠ '\n' := by
  rw [← Bool.not_eq_true, isBreak_iff, not_or]

/-- **The scan's test** finds just what breaks a text. -/
theorem unbroken_iff_isBreak {cs : List Char} : Unbroken cs ↔ ∀ c ∈ cs, isBreak c = false := by
  simp only [Unbroken, isBreak_eq_false]

theorem unbroken_nil : Unbroken [] := fun _ hc => absurd hc List.not_mem_nil

theorem Unbroken.append {cs ds : List Char} (hc : Unbroken cs) (hd : Unbroken ds) :
    Unbroken (cs ++ ds) := by
  intro c hmem
  rcases List.mem_append.1 hmem with hmem | hmem
  · exact hc c hmem
  · exact hd c hmem

theorem unbroken_takeWhile (cs : List Char) : Unbroken (cs.takeWhile (!isBreak ·)) := by
  rw [unbroken_iff_isBreak]
  intro c hmem
  have hall := List.all_takeWhile (p := (!isBreak ·)) (l := cs)
  simpa using List.all_eq_true.1 hall c hmem

theorem isBreak_of_dropWhile {cs ds : List Char} {d : Char}
    (h : cs.dropWhile (!isBreak ·) = d :: ds) : d = '\r' ∨ d = '\n' := by
  have hd := List.head?_dropWhile_not (!isBreak ·) cs
  rw [h] at hd
  exact isBreak_iff.1 (by simpa using hd)

/-! ## The buffer -/

theorem take_overwrite {buf : Array Char} {pos : Nat} (cs : List Char) (h : pos ≤ buf.size) :
    (overwrite buf pos cs).toList.take (pos + cs.length) = buf.toList.take pos ++ cs := by
  induction cs generalizing buf pos with
  | nil => simp [overwrite]
  | cons c cs ih =>
    have hlen : pos + (c :: cs).length = pos + 1 + cs.length := by simp; omega
    rw [overwrite, hlen]
    split
    · next hlt =>
      rw [ih (by simp; omega), Array.toList_set, List.take_add_one,
        List.take_set_of_le (Nat.le_refl _)]
      simp [hlt]
    · next hge =>
      obtain rfl : pos = buf.size := by omega
      rw [ih (by simp)]
      simp [List.take_append]

theorem text_eq (buf : Array Char) (n : Nat) : text buf n = String.ofList (buf.toList.take n) := by
  simp [text, List.extract_eq_take_drop]

/-! ## The scan -/

/-- What a scan of `m` places from `s` can do, where `line` is what it took for line content. -/
inductive Scanned [Reader σ ε] (m : Nat) (s : σ) (line : List Char) : Except ε ScanEnd → σ → Prop
  /-- A terminator came, and what it is was plain from the same read. -/
  | found {ps : List (List Char)} {t rest : List Char} {s' : σ} :
      Brings s ps s' → ps.flatten = line ++ t ++ rest → Terminator t rest → ps.flatten.length ≤ m →
      Scanned m s line (.ok (.terminated line.length (line.length + t.length))) s'
  /-- A carriage return closed a read; one more character was asked for. -/
  | closing {ps : List (List Char)} {next : Option Char} {s₁ s' : σ} :
      Brings s ps s₁ → ps.flatten = line ++ ['\r'] → ps.flatten.length ≤ m →
      Reader.readChar s₁ = (.ok next, s') →
      Scanned m s line (.ok (.terminated line.length
        (if next = some '\n' then line.length + 2 else line.length + 1))) s'
  | exhausted {ps : List (List Char)} {s₁ s' : σ} :
      Brings s ps s₁ → ps.flatten = line → line.length < m →
      Reader.read (m - line.length) s₁ = (.ok [], s') →
      Scanned m s line (.ok (.exhausted line.length)) s'
  | full {ps : List (List Char)} {s' : σ} :
      Brings s ps s' → ps.flatten = line → line.length = m → Scanned m s line (.ok .full) s'
  | failed {ps : List (List Char)} {e : ε} {s₁ s' : σ} :
      Brings s ps s₁ → ps.flatten = line → line.length < m →
      Reader.read (m - line.length) s₁ = (.error e, s') → Scanned m s line (.error e) s'
  | closingFailed {ps : List (List Char)} {e : ε} {s₁ s' : σ} :
      Brings s ps s₁ → ps.flatten = line ++ ['\r'] → ps.flatten.length ≤ m →
      Reader.readChar s₁ = (.error e, s') → Scanned m s line (.error e) s'

theorem content_concat {buf : Array Char} {ps : List (List Char)}
    (hun : Unbroken ps.flatten) (hbuf : buf.toList.take ps.flatten.length = ps.flatten)
    (p : List Char) : ∃ line, Unbroken line ∧
      line.length = ps.flatten.length + (p.takeWhile (!isBreak ·)).length ∧
      (ps ++ [p]).flatten = line ++ p.dropWhile (!isBreak ·) ∧
      (overwrite buf ps.flatten.length p).toList.take line.length = line := by
  have hsplit := List.takeWhile_append_dropWhile (p := (!isBreak ·)) (l := p)
  have hsize : ps.flatten.length ≤ buf.size := by
    rw [← hbuf, List.length_take, Array.length_toList]
    exact Nat.min_le_right _ _
  have hfull := take_overwrite p hsize
  rw [hbuf] at hfull
  refine ⟨ps.flatten ++ p.takeWhile (!isBreak ·), hun.append (unbroken_takeWhile p),
    List.length_append, ?_, ?_⟩
  · rw [List.append_assoc, hsplit]
    simp
  · have hle : (ps.flatten ++ p.takeWhile (!isBreak ·)).length ≤ ps.flatten.length + p.length := by
      have := List.length_append ▸ congrArg List.length hsplit
      rw [List.length_append]
      omega
    rw [← Nat.min_eq_left hle, ← List.take_take, hfull]
    have happ : ps.flatten ++ p
        = ps.flatten ++ p.takeWhile (!isBreak ·) ++ p.dropWhile (!isBreak ·) := by
      rw [List.append_assoc, hsplit]
    rw [happ]
    exact List.take_left

theorem reads_concat [Reader σ ε] {m pos : Nat} {buf : Array Char} {s₀ s s₁ : σ}
    {ps : List (List Char)} {c : Char} {cs : List Char} (hps : Brings s₀ ps s)
    (hpos : ps.flatten.length = pos) (hlt : pos < m) (hun : Unbroken ps.flatten)
    (hbuf : buf.toList.take pos = ps.flatten)
    (hr : Reader.read (m - pos) s = (.ok (c :: cs), s₁)) :
    ∃ line, Unbroken line ∧ (overwrite buf pos (c :: cs)).toList.take line.length = line ∧
      pos + ((c :: cs).takeWhile (!isBreak ·)).length = line.length ∧
      Brings s₀ (ps ++ [c :: cs]) s₁ ∧
      (ps ++ [c :: cs]).flatten = line ++ (c :: cs).dropWhile (!isBreak ·) ∧
      (ps ++ [c :: cs]).flatten.length ≤ m := by
  subst hpos
  obtain ⟨line, hline, hlength, hflat, htake⟩ := content_concat hun hbuf (c :: cs)
  refine ⟨line, hline, htake, hlength.symm, .snoc hps (Nat.sub_pos_of_lt hlt) hr, hflat, ?_⟩
  have hlen := Reader.length_read_le hr
  rw [List.flatten_append, List.length_append]
  simp only [List.flatten_cons, List.flatten_nil, List.append_nil]
  omega

/-- What follows the line content of a piece begins with a terminator of one character, unless the
piece is all content, or leaves a carriage return open, or goes on with both characters. -/
theorem terminator_of_dropWhile {cs : List Char} (hne : cs.dropWhile (!isBreak ·) ≠ [])
    (hcr : cs.dropWhile (!isBreak ·) ≠ ['\r'])
    (hcrlf : ∀ rest, cs.dropWhile (!isBreak ·) ≠ '\r' :: '\n' :: rest) :
    ∃ t rest, cs.dropWhile (!isBreak ·) = t ++ rest ∧ Terminator t rest ∧ t.length = 1 := by
  cases hdrop : cs.dropWhile (!isBreak ·) with
  | nil => exact absurd hdrop hne
  | cons d ds =>
    rcases isBreak_of_dropWhile hdrop with rfl | rfl
    · cases ds with
      | nil => exact absurd hdrop hcr
      | cons c ds =>
        have hc : c ≠ '\n' := by
          rintro rfl
          exact hcrlf ds hdrop
        exact ⟨['\r'], c :: ds, rfl, .cr ds hc, rfl⟩
    · exact ⟨['\n'], ds, rfl, .lf ds, rfl⟩

/-- **A scan under way.** After reads that brought no terminator and are in the buffer, the rest of
the scan completes one of the cases. -/
theorem scan_cases_from [Reader σ ε] {m pos : Nat} {buf buf' : Array Char} {s₀ s s' : σ}
    {ps : List (List Char)} {x : Except ε ScanEnd} (hps : Brings s₀ ps s)
    (hpos : ps.flatten.length = pos) (hle : pos ≤ m) (hun : Unbroken ps.flatten)
    (hbuf : buf.toList.take pos = ps.flatten) (h : scan m pos buf s = (x, buf', s')) :
    ∃ line, Unbroken line ∧ buf'.toList.take line.length = line ∧ Scanned m s₀ line x s' := by
  fun_induction scan m pos buf s generalizing ps with
  | case1 pos buf s hlt e s₁ hr =>
    cases h
    subst hpos
    exact ⟨ps.flatten, hun, hbuf, .failed hps rfl hlt hr⟩
  | case2 pos buf s hlt s₁ hr =>
    cases h
    subst hpos
    exact ⟨ps.flatten, hun, hbuf, .exhausted hps rfl hlt hr⟩
  | case3 pos buf s hlt c cs s₁ hr buf₁ hdrop =>
    rename_i ih
    obtain ⟨line, hline, htake, hlength, hps', hflat, hle'⟩ :=
      reads_concat hps hpos hlt hun hbuf hr
    rw [hdrop, List.append_nil] at hflat
    have hpos' : (ps ++ [c :: cs]).flatten.length = pos + (cs.length + 1) := by simp [← hpos]
    refine ih hps' hpos' (hpos' ▸ hle') (hflat ▸ hline) ?_ h
    rw [← hpos', hflat]
    exact htake
  | case4 pos buf s hlt c cs s₁ hr buf₁ hdrop e s₂ =>
    rename_i hc
    simp only [Prod.mk.injEq] at h
    obtain ⟨rfl, rfl, rfl⟩ := h
    obtain ⟨line, hline, htake, -, hps', hflat, hle'⟩ := reads_concat hps hpos hlt hun hbuf hr
    rw [hdrop] at hflat
    exact ⟨line, hline, htake, .closingFailed hps' hflat hle' hc⟩
  | case5 pos buf s hlt c cs s₁ hr buf₁ length hdrop next s₂ =>
    rename_i hc
    simp only [Prod.mk.injEq] at h
    obtain ⟨rfl, rfl, rfl⟩ := h
    obtain ⟨line, hline, htake, hlength, hps', hflat, hle'⟩ :=
      reads_concat hps hpos hlt hun hbuf hr
    rw [hdrop] at hflat
    refine ⟨line, hline, htake, ?_⟩
    rw [show length = line.length from hlength]
    exact .closing hps' hflat hle' hc
  | case6 pos buf s hlt c cs s₁ hr buf₁ length rest =>
    rename_i hdrop
    simp only [Prod.mk.injEq] at h
    obtain ⟨rfl, rfl, rfl⟩ := h
    obtain ⟨line, hline, htake, hlength, hps', hflat, hle'⟩ :=
      reads_concat hps hpos hlt hun hbuf hr
    refine ⟨line, hline, htake, ?_⟩
    rw [show length = line.length from hlength]
    have hcrlf : (ps ++ [c :: cs]).flatten = line ++ ['\r', '\n'] ++ rest := by
      rw [hflat, hdrop, List.append_assoc]
      rfl
    exact .found hps' hcrlf (.crlf rest) hle'
  | case7 pos buf s hlt c cs s₁ hr buf₁ length hne hcr =>
    rename_i hcrlf
    simp only [Prod.mk.injEq] at h
    obtain ⟨rfl, rfl, rfl⟩ := h
    obtain ⟨line, hline, htake, hlength, hps', hflat, hle'⟩ :=
      reads_concat hps hpos hlt hun hbuf hr
    refine ⟨line, hline, htake, ?_⟩
    rw [show length = line.length from hlength]
    obtain ⟨t, rest, hdrop, ht, hone⟩ := terminator_of_dropWhile hne hcr hcrlf
    rw [hdrop, ← List.append_assoc] at hflat
    rw [← hone]
    exact .found hps' hflat ht hle'
  | case8 pos buf s hge =>
    cases h
    subst hpos
    exact ⟨ps.flatten, hun, hbuf, .full hps rfl (by omega)⟩

/-- **What a scan does**, whatever the buffer held before. -/
theorem scan_cases [Reader σ ε] {m : Nat} {buf buf' : Array Char} {s s' : σ}
    {x : Except ε ScanEnd} (h : scan m 0 buf s = (x, buf', s')) :
    ∃ line, Unbroken line ∧ buf'.toList.take line.length = line ∧ Scanned m s line x s' :=
  scan_cases_from (.refl s) rfl (Nat.zero_le m) unbroken_nil rfl h

end CharStream.Line
