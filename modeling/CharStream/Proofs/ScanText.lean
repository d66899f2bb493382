import CharStream.Proofs.ScanCells

/-!
# A scan is decided by the text

A scan looks for a terminator in one piece at a time, and asks for one character more when a
carriage return closes a piece. `Line.ending` knows nothing of pieces: it takes the upcoming text as
a whole, and looks for the first terminator within the first `m` characters.

**Theorem (`scan_ignores_cuts`).** Over a reader that does not fail, a scan ends as `Line.ending`
says, whatever the pieces that the text comes in, and the buffer begins with the line content.

Every outcome of a scan splits the upcoming text into the line content and the rest (`Scanned`).
What remains is to read the end off such a text: `ending_break` does it for a text that goes on with
a terminator, and `ending_all` and `ending_full` for one without.
-/

namespace CharStream.Line

variable {σ ε : Type}

/-! ## The end of a scan, read off the text -/

/-- How a scan of `m` places ends if `u` is to come: before the first terminator among the first `m`
characters. A carriage return takes along a line feed behind it, even as character `m + 1`. -/
def ending (m : Nat) (u : List Char) : ScanEnd :=
  match (u.take m).findIdx? isBreak with
  | some length => .terminated length
      (if u[length]? = some '\r' ∧ u[length + 1]? = some '\n' then length + 2 else length + 1)
  | none => if u.length < m then .exhausted u.length else .full

theorem unbroken_iff {cs : List Char} : Unbroken cs ↔ cs.findIdx? isBreak = none :=
  unbroken_iff_isBreak.trans List.findIdx?_eq_none_iff.symm

theorem findIdx?_break {line rest : List Char} {d : Char} (hun : Unbroken line)
    (hd : isBreak d = true) : (line ++ d :: rest).findIdx? isBreak = some line.length := by
  rw [List.findIdx?_append, unbroken_iff.1 hun, List.findIdx?_cons, hd]
  simp

theorem findIdx?_take_eq_some {m length : Nat} {u : List Char} :
    (u.take m).findIdx? isBreak = some length
      ↔ u.findIdx? isBreak = some length ∧ length < m := by
  simp only [List.findIdx?_take, Option.bind_eq_some_iff, Option.guard_eq_some_iff,
    decide_eq_true_eq]
  constructor
  · rintro ⟨_, hfirst, rfl, hlt⟩
    exact ⟨hfirst, hlt⟩
  · rintro ⟨hfirst, hlt⟩
    exact ⟨length, hfirst, rfl, hlt⟩

theorem ending_break {m : Nat} {line rest : List Char} {d : Char} (hun : Unbroken line)
    (hd : isBreak d = true) (hlt : line.length < m) :
    ending m (line ++ d :: rest) = .terminated line.length
      (if d = '\r' ∧ rest.head? = some '\n' then line.length + 2 else line.length + 1) := by
  have hfirst : ((line ++ d :: rest).take m).findIdx? isBreak = some line.length :=
    findIdx?_take_eq_some.2 ⟨findIdx?_break hun hd, hlt⟩
  have hstop : (line ++ d :: rest)[line.length]? = some d := by simp
  have hnext : (line ++ d :: rest)[line.length + 1]? = rest.head? := by
    rw [List.getElem?_append_right (Nat.le_add_right _ 1), Nat.add_sub_cancel_left,
      List.getElem?_cons_succ, List.head?_eq_getElem?]
  rw [ending, hfirst]
  dsimp only
  rw [hstop, hnext]
  simp only [Option.some.injEq]

theorem ending_terminator {m : Nat} {line t rest : List Char} (hun : Unbroken line)
    (ht : Terminator t rest) (hlt : line.length < m) :
    ending m (line ++ t ++ rest) = .terminated line.length (line.length + t.length) := by
  rw [List.append_assoc]
  cases ht with
  | lf =>
    exact (ending_break hun rfl hlt).trans (congrArg _ (if_neg (by simp)))
  | crlf =>
    exact (ending_break hun rfl hlt).trans (congrArg _ (if_pos (by simp)))
  | cr rest hc =>
    exact (ending_break hun rfl hlt).trans (congrArg _ (if_neg (by simpa using hc)))

theorem ending_all {m : Nat} {line : List Char} (hun : Unbroken line) (hlt : line.length < m) :
    ending m line = .exhausted line.length := by
  have hnone : (line.take m).findIdx? isBreak = none := by
    rw [List.take_of_length_le (Nat.le_of_lt hlt)]
    exact unbroken_iff.1 hun
  rw [ending, hnone]
  exact if_pos hlt

theorem ending_full {m : Nat} {line rest : List Char} (hun : Unbroken line)
    (hm : line.length = m) : ending m (line ++ rest) = .full := by
  have hnone : ((line ++ rest).take m).findIdx? isBreak = none := by
    rw [← hm, List.take_left]
    exact unbroken_iff.1 hun
  have hge : ¬ (line ++ rest).length < m := by
    rw [List.length_append]
    omega
  rw [ending, hnone]
  exact if_neg hge

/-! ## When each end is the one -/

theorem ending_eq_terminated_iff {m length taken : Nat} {u : List Char} :
    ending m u = .terminated length taken ↔
      u.findIdx? isBreak = some length ∧ length < m ∧ taken =
        if u[length]? = some '\r' ∧ u[length + 1]? = some '\n' then length + 2
        else length + 1 := by
  rw [← and_assoc, ← findIdx?_take_eq_some, ending]
  split
  · next first hfirst =>
    rw [hfirst, ScanEnd.terminated.injEq, Option.some.injEq]
    constructor
    · rintro ⟨rfl, rfl⟩
      exact ⟨rfl, rfl⟩
    · rintro ⟨rfl, rfl⟩
      exact ⟨rfl, rfl⟩
  · next hnone =>
    rw [hnone]
    split <;> simp

theorem ending_eq_exhausted_iff {m length : Nat} {u : List Char} :
    ending m u = .exhausted length ↔ u.length = length ∧ length < m ∧ Unbroken u := by
  rw [ending]
  constructor
  · intro h
    split at h
    · cases h
    · next hnone =>
      split at h
      · next hlt =>
        obtain rfl := ScanEnd.exhausted.inj h
        rw [List.take_of_length_le (Nat.le_of_lt hlt)] at hnone
        exact ⟨rfl, hlt, unbroken_iff.2 hnone⟩
      · cases h
  · rintro ⟨rfl, hlt, hun⟩
    exact ending_all hun hlt

theorem ending_eq_full_iff {m : Nat} {u : List Char} :
    ending m u = .full ↔ m ≤ u.length ∧ Unbroken (u.take m) := by
  constructor
  · intro h
    rw [ending] at h
    split at h
    · cases h
    · next hnone =>
      split at h
      · cases h
      · next hge => exact ⟨Nat.le_of_not_lt hge, unbroken_iff.2 hnone⟩
  · rintro ⟨hle, hun⟩
    rw [← List.take_append_drop m u]
    exact ending_full hun (List.length_take_of_le hle)

/-! ## The scan -/

/-- **The outcome of a scan** that does not fail is the one that the upcoming text has, and the line
content is the front of that text. -/
theorem Scanned.ending [Reader σ ε] (hone : ∀ s : σ, Reader.readChar s = readOne Reader.read s)
    {m : Nat} {s s' : σ} {line u : List Char} {e : ScanEnd} (h : Scanned m s line (.ok e) s')
    (hun : Unbroken line) (hu : Upcoming s u) :
    e = ending m u ∧ line.length = e.held m ∧ line <+: u := by
  cases h with
  | @found ps t rest _ hps hflat ht hle =>
    obtain ⟨u', rfl, -⟩ := hu.brings hps
    have hlt : line.length < m := by
      have hpos : 0 < t.length := by cases ht <;> simp
      rw [hflat, List.length_append, List.length_append] at hle
      omega
    have htext : ps.flatten ++ u' = line ++ t ++ (rest ++ u') := by
      rw [hflat, List.append_assoc]
    rw [htext]
    refine ⟨(ending_terminator hun (ht.append u') hlt).symm, rfl, ?_⟩
    rw [List.append_assoc]
    exact List.prefix_append _ _
  | @closing ps next s₁ _ hps hflat hle hr =>
    obtain ⟨u', rfl, hu'⟩ := hu.brings hps
    -- The one character more is the next of the text, if there is any.
    obtain rfl := hu'.readOne (hone s₁ ▸ hr)
    have hlt : line.length < m := by
      rw [hflat, List.length_append] at hle
      exact hle
    have htext : ps.flatten ++ u' = line ++ '\r' :: u' := by
      rw [hflat, List.append_assoc]
      rfl
    rw [htext, ending_break hun rfl hlt]
    refine ⟨?_, rfl, List.prefix_append _ _⟩
    simp only [true_and]
  | @exhausted ps s₁ _ hps hflat hlt hr =>
    obtain ⟨u', rfl, hu'⟩ := hu.brings hps
    obtain rfl := hu'.ended (Nat.sub_pos_of_lt hlt) hr
    rw [hflat, List.append_nil]
    exact ⟨(ending_all hun hlt).symm, rfl, List.prefix_refl line⟩
  | @full ps _ hps hflat hm =>
    obtain ⟨u', rfl, -⟩ := hu.brings hps
    rw [hflat]
    exact ⟨(ending_full hun hm).symm, hm, List.prefix_append _ _⟩

/-- **The cuts of the text make no difference to a scan** of `m` places. It ends before a terminator
if the first one is among the next `m` characters, and a carriage return takes along the line feed
behind it, even from beyond them; with the stream if there are fewer characters and no terminator;
and else with a full buffer. The buffer begins with the line content, also if the scan is in place.
-/
theorem scan_ignores_cuts [Reader σ ε] (hone : ∀ s : σ, Reader.readChar s = readOne Reader.read s)
    {s : σ} {u : List Char} (hu : Upcoming s u) (hs : NeverFails s) (m : Nat)
    (buf : Array Char) :
    ∃ e buf' s', scan m 0 buf s = (.ok e, buf', s') ∧
      (∀ length taken, e = .terminated length taken ↔
        u.findIdx? isBreak = some length ∧ length < m ∧ taken =
          if u[length]? = some '\r' ∧ u[length + 1]? = some '\n' then length + 2
          else length + 1) ∧
      (∀ length, e = .exhausted length ↔ u.length = length ∧ length < m ∧ Unbroken u) ∧
      (e = .full ↔ m ≤ u.length ∧ Unbroken (u.take m)) ∧
      Unbroken (u.take (e.held m)) ∧
      buf'.toList.take (e.held m) = u.take (e.held m) ∧
      ∀ (fill : Fill m σ ε) (cells : Vector Char m), Fills fill →
        ∃ cells', scanCells fill 0 cells s = (.ok e, cells', s') ∧
          cells'.toList.take (e.held m) = u.take (e.held m) := by
  rcases h : scan m 0 buf s with ⟨x, buf', s'⟩
  obtain ⟨line, hun, hbuf, hscanned⟩ := scan_cases h
  cases x with
  | error e =>
    obtain ⟨ps, s₁, hps, hf, -⟩ := hscanned.error_inv hone
    exact absurd hf (hs ps s₁ e s' hps.reads)
  | ok e =>
    obtain ⟨he, hheld, hfront⟩ := hscanned.ending hone hun hu
    have hline : u.take (e.held m) = line := by
      rw [← hheld]
      exact (List.prefix_iff_eq_take.1 hfront).symm
    have htake : buf'.toList.take (e.held m) = u.take (e.held m) := by
      rw [hline, ← hheld]
      exact hbuf
    refine ⟨e, buf', s', rfl, ?_, ?_, ?_, hline ▸ hun, htake, ?_⟩
    · intro length taken
      rw [he]
      exact ending_eq_terminated_iff
    · intro length
      rw [he]
      exact ending_eq_exhausted_iff
    · rw [he]
      exact ending_eq_full_iff
    · intro fill cells hfill
      have hnone : cells.toList.take 0 = buf.toList.take 0 := rfl
      obtain ⟨cells', hcells, hsame⟩ :=
        scanCells_alike hfill (Nat.zero_le m) (Nat.zero_le _) hnone h
      exact ⟨cells', hcells, (hsame e rfl).trans htake⟩

/-- A carriage return in the last place, and a piece that ends between it and its line feed. -/
theorem scan_ignores_cuts_between :
    let p : PlannedReader Unit := { text := .ofString "ab\r\ncd", plan := fun k => .ok (3 - k + 1) }
    (∀ s : PlannedReader Unit, Reader.readChar s = readOne Reader.read s) ∧
      Upcoming p "ab\r\ncd".toList ∧ NeverFails p ∧
      ∃ buf' s', scan 3 0 #['\n'] p = (.ok (.terminated 2 4), buf', s') ∧
        buf'.toList.take 2 = ['a', 'b'] := by
  intro p
  have hu : Upcoming p "ab\r\ncd".toList :=
    (PlannedReader.delivers (p := p) fun k => ⟨3 - k, rfl⟩).upcoming
  have hs : NeverFails p := PlannedReader.neverFails fun k => ⟨3 - k + 1, rfl⟩
  obtain ⟨e, buf', s', hscan, hterminated, -, -, -, hbuf, -⟩ :=
    scan_ignores_cuts (fun _ => rfl) hu hs 3 #['\n']
  obtain rfl : e = .terminated 2 4 := (hterminated 2 4).2 (by decide)
  exact ⟨fun _ => rfl, hu, hs, buf', s', hscan, hbuf⟩

end CharStream.Line
