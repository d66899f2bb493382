import CharStream.Proofs.Conservation

/-!
# What the scan buffer still holds

One buffer serves all scans of a scanner, so it is full of characters of earlier lines, and of calls
that failed. A scan may look only at cells that it has filled itself.

`scanCells` works in the cells: it lets the source write into them, looks for a terminator among
them, and peeks behind a carriage return in them. `Fills` says what the source does there; of the
cells behind those that it fills nothing is known, so what is in them may be stale or arbitrary.

**The proof** follows the scan. Between reads, the cells that are filled hold what the reads have
brought, and those are the first cells of any buffer that the scan could have been given
(`scanCells_alike`). The search adds the marks and spills whole buffers, all cells of which are
filled then (`findCells_alike`). So in the end the same line is found, and the cells that its last
part is copied from are the same.

* `nextLine_ignores_buffer` — a call answers and leaves its source as if the buffer were new.
-/

namespace CharStream

variable {σ ε : Type}

namespace Line

variable {n : Nat}

/-! ## Scanning in place -/

/-- Reads into the cells of a buffer from a position on, and tells how many it has filled. -/
abbrev Fill (n : Nat) (σ ε : Type) := Nat → Vector Char n → σ → Except ε Nat × Vector Char n × σ

/-- `fill` fills cells as `Reader.read` reads: as many as a read of all that are left brings. The
cells before them stay. What becomes of those behind them is left open, and so is what becomes of
all if it fails. -/
structure Fills [Reader σ ε] (fill : Fill n σ ε) : Prop where
  filled {pos : Nat} (cells : Vector Char n) {s s' : σ} {cs : List Char} : pos < n →
    Reader.read (n - pos) s = (.ok cs, s') →
    ∃ cells', fill pos cells s = (.ok cs.length, cells', s') ∧
      cells'.toList.take (pos + cs.length) = cells.toList.take pos ++ cs
  failed {pos : Nat} (cells : Vector Char n) {s s' : σ} {e : ε} : pos < n →
    Reader.read (n - pos) s = (.error e, s') → ∃ cells', fill pos cells s = (.error e, cells', s')

/-- Fills cells, and leaves the character `junk` in all that are left. -/
def scribble [Reader σ ε] (junk : Char) : Fill n σ ε := fun pos cells s =>
  match Reader.read (n - pos) s with
  | (.ok cs, s) =>
    (.ok cs.length, .ofFn fun i => if i < pos then cells[i] else cs.getD (i - pos) junk, s)
  | (.error e, s) => (.error e, .replicate n junk, s)

theorem scribble_fills [Reader σ ε] (junk : Char) :
    Fills (scribble junk : Fill n σ ε) where
  filled {pos} cells {s s' cs} hlt hr := by
    have hlen := Reader.length_read_le hr
    refine ⟨_, by rw [scribble, hr], ?_⟩
    apply List.ext_getElem
    · simp
      omega
    · intro i hi hi'
      have hmin : min pos n = pos := Nat.min_eq_left (Nat.le_of_lt hlt)
      have hi : i < pos + cs.length := by
        rwa [List.length_append, List.length_take, Vector.length_toList, hmin] at hi'
      simp only [List.getElem_take, Vector.getElem_toList, Vector.getElem_ofFn,
        List.getElem_append, List.length_take, Vector.length_toList, hmin]
      split
      · rfl
      · rw [List.getD_eq_getElem?_getD, List.getElem?_eq_getElem (by omega), Option.getD_some]
  failed {_} cells {_ _ _} hlt hr := ⟨_, by rw [scribble, hr]⟩

/-- The end of a scan before the terminator in the cell `stop`, if `next` comes after that. -/
def closed (stop : Nat) (next : Option Char) : ScanEnd :=
  .terminated stop (if next = some '\n' then stop + 2 else stop + 1)

/-- Ends a scan at the terminator in the cell `stop`, which is among those that are filled. What
comes after a carriage return is in the next cell, if that is filled too, and else in the source. -/
def close [Reader σ ε] (stop filled : Nat) (cells : Vector Char n) (s : σ) :
    Except ε ScanEnd × Vector Char n × σ :=
  if cells[stop]? = some '\r' then
    if stop + 1 < filled then (.ok (closed stop cells[stop + 1]?), cells, s)
    else
      match Reader.readChar s with
      | (.error e, s) => (.error e, cells, s)
      | (.ok next, s) => (.ok (closed stop next), cells, s)
  else (.ok (closed stop none), cells, s)

/-- Continues a scan that has filled the cells before `pos`. -/
def scanCells [Reader σ ε] (fill : Fill n σ ε) (pos : Nat) (cells : Vector Char n) (s : σ) :
    Except ε ScanEnd × Vector Char n × σ :=
  if pos < n then
    match fill pos cells s with
    | (.error e, cells, s) => (.error e, cells, s)
    | (.ok 0, cells, s) => (.ok (.exhausted pos), cells, s)
    | (.ok (k + 1), cells, s) =>
      let filled := pos + (k + 1)
      match (cells.toArray.extract pos filled).findIdx? isBreak with
      | none => scanCells fill filled cells s
      | some offset => close (pos + offset) filled cells s
  else (.ok .full, cells, s)
termination_by n - pos

/-- Scans buffer after buffer in the same cells, at most `fuel` of them. -/
def findCells [Rewindable σ ε] (fill : Fill n σ ε) (readAhead : Nat) :
    Nat → String → Vector Char n → σ → Option (Except ε (Option Found) × Vector Char n × σ)
  | 0, _, _, _ => none
  | fuel + 1, spilled, cells, s =>
    match Rewindable.mark readAhead s with
    | (.error e, s) => some (.error e, cells, s)
    | (.ok (), s) =>
      match scanCells fill 0 cells s with
      | (.error e, cells, s) => some (.error e, cells, s)
      | (.ok (.terminated length taken), cells, s) =>
        some (.ok (some { spilled, length, taken }), cells, s)
      | (.ok (.exhausted length), cells, s) =>
        if length = 0 ∧ spilled.isEmpty then some (.ok none, cells, s)
        else some (.ok (some { spilled, length, taken := length }), cells, s)
      | (.ok .full, cells, s) =>
        findCells fill readAhead fuel (spilled ++ text cells.toArray n) cells s

/-! ## Cells that are filled -/

theorem findIdx?_isBreak (cs : List Char) :
    cs.findIdx? isBreak = match cs.dropWhile (!isBreak ·) with
      | [] => none
      | _ :: _ => some (cs.takeWhile (!isBreak ·)).length := by
  induction cs with
  | nil => rfl
  | cons c cs ih =>
    rw [List.findIdx?_cons, List.dropWhile_cons, List.takeWhile_cons]
    cases hc : isBreak c with
    | true => rfl
    | false =>
      simp only [Bool.not_false, if_true, Bool.false_eq_true, if_false, ih]
      cases cs.dropWhile (!isBreak ·) with
      | nil => rfl
      | cons d ds => rfl

theorem getElem?_dropWhile (cs : List Char) (j : Nat) :
    cs[(cs.takeWhile (!isBreak ·)).length + j]? = (cs.dropWhile (!isBreak ·))[j]? := by
  have hsplit := List.takeWhile_append_dropWhile (p := (!isBreak ·)) (l := cs)
  calc cs[(cs.takeWhile (!isBreak ·)).length + j]?
      = (cs.takeWhile (!isBreak ·) ++ cs.dropWhile (!isBreak ·))[
          (cs.takeWhile (!isBreak ·)).length + j]? := by rw [hsplit]
    _ = (cs.dropWhile (!isBreak ·))[j]? := by
        rw [List.getElem?_append_right (Nat.le_add_right _ _), Nat.add_sub_cancel_left]

section Filled

variable {cells : Vector Char n} {front cs : List Char}
  (h : cells.toList.take (front.length + cs.length) = front ++ cs)
include h

theorem slice_filled :
    (cells.toArray.extract front.length (front.length + cs.length)).findIdx? isBreak
      = cs.findIdx? isBreak := by
  have hslice : (cells.toArray.extract front.length (front.length + cs.length)).toList = cs := by
    rw [Array.toList_extract, List.extract_eq_take_drop, Nat.add_sub_cancel_left, List.take_drop]
    show (cells.toList.take _).drop _ = cs
    rw [h, List.drop_left]
  calc (cells.toArray.extract front.length (front.length + cs.length)).findIdx? isBreak
      = (cells.toArray.extract front.length (front.length + cs.length)).toList.findIdx?
          isBreak := by rw [← List.findIdx?_toArray, Array.toArray_toList]
    _ = cs.findIdx? isBreak := by rw [hslice]

theorem cell_filled {j : Nat} (hj : j < cs.length) : cells[front.length + j]? = cs[j]? := by
  calc cells[front.length + j]?
      = (cells.toList.take (front.length + cs.length))[front.length + j]? := by
        rw [List.getElem?_take_of_lt (Nat.add_lt_add_left hj _), Vector.getElem?_toList]
    _ = cs[j]? := by
        rw [h, List.getElem?_append_right (Nat.le_add_right _ _), Nat.add_sub_cancel_left]

/-- **The end of a scan** is read from the cells as it is from the characters that fill them. -/
theorem close_filled [Reader σ ε] {d : Char} {ds : List Char}
    (hdrop : cs.dropWhile (!isBreak ·) = d :: ds) (s : σ) :
    let stop := front.length + (cs.takeWhile (!isBreak ·)).length
    close stop (front.length + cs.length) cells s =
      if d = '\r' then
        match ds with
        | [] =>
          match Reader.readChar s with
          | (.error e, s) => (.error e, cells, s)
          | (.ok next, s) => (.ok (closed stop next), cells, s)
        | c :: _ => (.ok (closed stop (some c)), cells, s)
      else (.ok (closed stop none), cells, s) := by
  intro stop
  have hlength : cs.length = (cs.takeWhile (!isBreak ·)).length + (ds.length + 1) := by
    have hsplit := List.takeWhile_append_dropWhile (p := (!isBreak ·)) (l := cs)
    rw [hdrop] at hsplit
    calc cs.length = (cs.takeWhile (!isBreak ·) ++ d :: ds).length := by rw [hsplit]
      _ = _ := List.length_append
  have hcell (j : Nat) (hj : j < ds.length + 1) : cells[stop + j]? = (d :: ds)[j]? := by
    rw [Nat.add_assoc, cell_filled h (by omega), getElem?_dropWhile, hdrop]
  have hfirst : cells[stop]? = some d := hcell 0 (Nat.succ_pos _)
  rw [close, hfirst]
  by_cases hd : d = '\r'
  · rw [if_pos (congrArg some hd), if_pos hd]
    cases ds with
    | nil =>
      have hlast : ¬ stop + 1 < front.length + cs.length := by
        rw [hlength, List.length_nil]
        omega
      rw [if_neg hlast]
    | cons c ds =>
      have hmore : stop + 1 < front.length + cs.length := by
        rw [hlength, List.length_cons]
        omega
      have hnext : cells[stop + 1]? = some c := hcell 1 (by simp)
      rw [if_pos hmore, hnext]
  · rw [if_neg (by simpa using hd), if_neg hd]

end Filled

/-! ## The scan -/

/-- How many of the first places of a buffer the end of a scan speaks of. -/
def ScanEnd.held (n : Nat) : ScanEnd → Nat
  | .terminated length _ => length
  | .exhausted length => length
  | .full => n

theorem take_of_le {as bs : List Char} {k l : Nat} (h : as.take l = bs.take l) (hle : k ≤ l) :
    as.take k = bs.take k := by
  rw [← Nat.min_eq_left hle, ← List.take_take, h, List.take_take]

theorem held_le (pos : Nat) (cs : List Char) :
    pos + (cs.takeWhile (!isBreak ·)).length ≤ pos + cs.length :=
  Nat.add_le_add_left (List.takeWhile_prefix _).length_le pos

/-- One round: what a read brings is in the cells, behind those that were filled before. -/
theorem scanCells_round [Reader σ ε] {fill : Fill n σ ε} (hfill : Fills fill) {pos : Nat}
    {cells : Vector Char n} {buf : Array Char} {c : Char} {cs : List Char} {s s' : σ}
    (hlt : pos < n) (hsize : pos ≤ buf.size) (hsame : cells.toList.take pos = buf.toList.take pos)
    (hr : Reader.read (n - pos) s = (.ok (c :: cs), s')) :
    let filled := pos + (c :: cs).length
    ∃ cells', filled ≤ n ∧ filled ≤ (overwrite buf pos (c :: cs)).size ∧
      cells'.toList.take filled = (overwrite buf pos (c :: cs)).toList.take filled ∧
      scanCells fill pos cells s = match (c :: cs).dropWhile (!isBreak ·) with
        | [] => scanCells fill filled cells' s'
        | d :: ds =>
          let stop := pos + ((c :: cs).takeWhile (!isBreak ·)).length
          if d = '\r' then
            match ds with
            | [] =>
              match Reader.readChar s' with
              | (.error e, s) => (.error e, cells', s)
              | (.ok next, s) => (.ok (closed stop next), cells', s)
            | c :: _ => (.ok (closed stop (some c)), cells', s')
          else (.ok (closed stop none), cells', s') := by
  intro filled
  obtain ⟨cells', hcells, hkept⟩ := hfill.filled cells hlt hr
  have hlen := Reader.length_read_le hr
  have hfront : (cells.toList.take pos).length = pos := by
    rw [List.length_take, Vector.length_toList]
    omega
  have hover := take_overwrite (c :: cs) hsize
  have hfilled : cells'.toList.take ((cells.toList.take pos).length + (c :: cs).length)
      = cells.toList.take pos ++ c :: cs := by
    rw [hfront, hkept]
  refine ⟨cells', by omega, ?_, ?_, ?_⟩
  · have hcount := congrArg List.length hover
    simp only [List.length_take, List.length_append, Array.length_toList] at hcount
    omega
  · rw [hkept, hover, hsame]
  · have hslice := slice_filled hfilled
    rw [hfront, findIdx?_isBreak] at hslice
    rw [scanCells, if_pos hlt, hcells]
    show (match (cells'.toArray.extract pos filled).findIdx? isBreak with
      | none => scanCells fill filled cells' s'
      | some offset => close (pos + offset) filled cells' s') = _
    rw [hslice]
    cases hdrop : (c :: cs).dropWhile (!isBreak ·) with
    | nil => rfl
    | cons d ds =>
      have hclose := close_filled hfilled hdrop s'
      rw [hfront] at hclose
      exact hclose

/-- **A scan in place** ends as the scan does, and the places that its end speaks of hold the same
characters, if those that are filled already do. -/
theorem scanCells_alike [Reader σ ε] {fill : Fill n σ ε} (hfill : Fills fill) {pos : Nat}
    {cells : Vector Char n} {buf buf' : Array Char} {s s' : σ} {x : Except ε ScanEnd}
    (hle : pos ≤ n) (hsize : pos ≤ buf.size) (hsame : cells.toList.take pos = buf.toList.take pos)
    (h : scan n pos buf s = (x, buf', s')) :
    ∃ cells', scanCells fill pos cells s = (x, cells', s') ∧
      ∀ e, x = .ok e → cells'.toList.take (e.held n) = buf'.toList.take (e.held n) := by
  fun_induction scan n pos buf s generalizing cells with
  | case1 pos buf s hlt e s₁ hr =>
    cases h
    obtain ⟨cells', hcells⟩ := hfill.failed cells hlt hr
    refine ⟨cells', ?_, by rintro _ ⟨⟩⟩
    rw [scanCells, if_pos hlt, hcells]
  | case2 pos buf s hlt s₁ hr =>
    cases h
    obtain ⟨cells', hcells, hkept⟩ := hfill.filled cells hlt hr
    refine ⟨cells', ?_, ?_⟩
    · rw [scanCells, if_pos hlt, hcells]
      rfl
    · rintro e ⟨⟩
      rw [List.length_nil, List.append_nil, hsame] at hkept
      exact hkept
  | case3 pos buf s hlt c cs s₁ hr buf₁ hdrop =>
    rename_i ih
    obtain ⟨cells', hfilled, hsize', hsame', hround⟩ := scanCells_round hfill hlt hsize hsame hr
    rw [hdrop] at hround
    obtain ⟨cells'', hcells, hheld⟩ := ih hfilled hsize' hsame' h
    exact ⟨cells'', hround.trans hcells, hheld⟩
  | case4 pos buf s hlt c cs s₁ hr buf₁ hdrop e s₂ =>
    rename_i hc
    simp only [Prod.mk.injEq] at h
    obtain ⟨rfl, rfl, rfl⟩ := h
    obtain ⟨cells', -, -, -, hround⟩ := scanCells_round hfill hlt hsize hsame hr
    refine ⟨cells', ?_, by rintro _ ⟨⟩⟩
    rw [hround, hdrop]
    simp only [if_true, hc]
  | case5 pos buf s hlt c cs s₁ hr buf₁ length hdrop next s₂ =>
    rename_i hc
    simp only [Prod.mk.injEq] at h
    obtain ⟨rfl, rfl, rfl⟩ := h
    obtain ⟨cells', -, -, hsame', hround⟩ := scanCells_round hfill hlt hsize hsame hr
    refine ⟨cells', ?_, ?_⟩
    · rw [hround, hdrop]
      simp only [if_true, hc]
      rfl
    · rintro e ⟨⟩
      exact take_of_le hsame' (held_le pos (c :: cs))
  | case6 pos buf s hlt c cs s₁ hr buf₁ length rest =>
    rename_i hdrop
    simp only [Prod.mk.injEq] at h
    obtain ⟨rfl, rfl, rfl⟩ := h
    obtain ⟨cells', -, -, hsame', hround⟩ := scanCells_round hfill hlt hsize hsame hr
    refine ⟨cells', ?_, ?_⟩
    · rw [hround, hdrop]
      rfl
    · rintro e ⟨⟩
      exact take_of_le hsame' (held_le pos (c :: cs))
  | case7 pos buf s hlt c cs s₁ hr buf₁ length hne hcr =>
    rename_i hcrlf
    simp only [Prod.mk.injEq] at h
    obtain ⟨rfl, rfl, rfl⟩ := h
    obtain ⟨cells', -, -, hsame', hround⟩ := scanCells_round hfill hlt hsize hsame hr
    refine ⟨cells', ?_, ?_⟩
    · rw [hround]
      cases hdrop : (c :: cs).dropWhile (!isBreak ·) with
      | nil => exact absurd hdrop hne
      | cons d ds =>
        rcases isBreak_of_dropWhile hdrop with rfl | rfl
        · cases ds with
          | nil => exact absurd hdrop hcr
          | cons c' ds =>
            have hc' : some c' ≠ some '\n' := by
              rintro ⟨⟩
              exact hcrlf ds hdrop
            simp only [if_true, closed, if_neg hc']
            rfl
        · rfl
    · rintro e ⟨⟩
      exact take_of_le hsame' (held_le pos (c :: cs))
  | case8 pos buf s hge =>
    cases h
    obtain rfl : pos = n := by omega
    refine ⟨cells, ?_, ?_⟩
    · rw [scanCells, if_neg hge]
    · rintro e ⟨⟩
      exact hsame

/-! ## The search -/

/-- Searches that answer alike: a line that was found is the same in the buffer and in the cells. -/
inductive Alike : Option (Except ε (Option Found) × Array Char × σ) →
    Option (Except ε (Option Found) × Vector Char n × σ) → Prop
  | none : Alike none none
  | some {x : Except ε (Option Found)} {buf : Array Char} {cells : Vector Char n} {s : σ} :
      (∀ found, x = .ok (some found) →
        cells.toList.take found.length = buf.toList.take found.length) →
      Alike (some (x, buf, s)) (some (x, cells, s))

/-- **A search in place** answers as the search does. -/
theorem findCells_alike [Rewindable σ ε] {o : LineOptions} {fill : Fill o.maxLineLength σ ε}
    (hfill : Fills fill) (fuel : Nat) (spilled : String) (cells : Vector Char o.maxLineLength)
    (buf : Array Char) (s : σ) :
    Alike (find o fuel spilled buf s) (findCells fill o.readAhead fuel spilled cells s) := by
  induction fuel generalizing spilled cells buf s with
  | zero => exact .none
  | succ fuel ih =>
    rw [find, findCells]
    rcases Rewindable.mark o.readAhead s with ⟨e | ⟨⟩, s₁⟩
    · exact .some (by rintro _ ⟨⟩)
    · rcases hscan : scan o.maxLineLength 0 buf s₁ with ⟨y, buf₁, s₂⟩
      have hnone : cells.toList.take 0 = buf.toList.take 0 := rfl
      obtain ⟨cells₁, hcells, hheld⟩ :=
        scanCells_alike hfill (Nat.zero_le _) (Nat.zero_le _) hnone hscan
      dsimp only
      rw [hscan, hcells]
      cases y with
      | error e => exact .some (by rintro _ ⟨⟩)
      | ok e =>
        cases e with
        | terminated length taken =>
          apply Alike.some
          rintro found ⟨⟩
          exact hheld _ rfl
        | exhausted length =>
          dsimp only
          split
          · exact .some (by rintro _ ⟨⟩)
          · apply Alike.some
            rintro found ⟨⟩
            exact hheld _ rfl
        | full =>
          have htext : text cells₁.toArray o.maxLineLength = text buf₁ o.maxLineLength := by
            rw [text_eq, text_eq]
            exact congrArg String.ofList (hheld _ rfl)
          dsimp only
          rw [htext]
          exact ih _ cells₁ buf₁ s₂

end Line

/-! ## The scanner -/

open Line (Fill Fills Found)

/-- A scanner that works in the cells of its buffer, which has none before the first scan. -/
structure CellScanner (options : LineOptions) (σ : Type) where
  source : σ
  cells : Option (Vector Char options.maxLineLength) := none

/-- Reads the next line, as `LineScanner.nextLine` does. -/
def CellScanner.nextLine [Rewindable σ ε] {options : LineOptions}
    (fill : Fill options.maxLineLength σ ε) (fuel : Nat) (r : CellScanner options σ) :
    Option (Except (LineError ε) (Option String) × CellScanner options σ) :=
  let supported := Rewindable.lookahead r.source
  if supported < options.readAhead then
    some (.error (.lookahead options.readAhead supported), r)
  else
    let cells := r.cells.getD (Vector.replicate _ (Char.ofNat 0))
    match Line.findCells fill options.readAhead fuel "" cells r.source with
    | none => none
    | some (.error e, cells, source) => some (.error (.source e), { source, cells })
    | some (.ok none, cells, source) => some (.ok none, { source, cells })
    | some (.ok (some found), cells, source) =>
      let (line, source) := found.take cells.toArray source
      some (line.map some, { source, cells })

theorem Line.Found.take_congr [Rewindable σ ε] {found : Found} {buf buf' : Array Char}
    (h : buf.toList.take found.length = buf'.toList.take found.length) (s : σ) :
    found.take buf s = found.take buf' s := by
  have htext : text buf found.length = text buf' found.length := by
    rw [text_eq, text_eq, h]
  rw [take, take, htext]

/-- The scanner with a new buffer. -/
def LineScanner.renewed (w : LineScanner σ) : LineScanner σ := { w with buffer := #[] }

/-- The scanner with a new buffer, which need not be one of cells. -/
def CellScanner.renewed {o : LineOptions} (r : CellScanner o σ) : LineScanner σ :=
  { source := r.source, options := o }

/-- **A call in place** answers and leaves its source as the call does. -/
theorem CellScanner.nextLine_eq [Rewindable σ ε] {o : LineOptions}
    {fill : Fill o.maxLineLength σ ε} (hfill : Fills fill) (fuel : Nat) (s : σ)
    (cells : Option (Vector Char o.maxLineLength)) (buffer : Array Char) :
    (nextLine fill fuel { source := s, cells }).map (Prod.map id renewed)
      = (LineScanner.nextLine fuel { source := s, options := o, buffer }).map
          (Prod.map id LineScanner.renewed) := by
  rw [nextLine, LineScanner.nextLine]
  dsimp only
  split
  · rfl
  · have halike := Line.findCells_alike hfill fuel ""
      (cells.getD (Vector.replicate _ (Char.ofNat 0))) buffer s
    generalize Line.find o fuel "" buffer s = p at halike ⊢
    generalize Line.findCells fill o.readAhead fuel "" _ s = q at halike ⊢
    cases halike with
    | none => rfl
    | @some x buf' cells' s' hheld =>
      rcases x with e | _ | found
      · rfl
      · rfl
      · have htake : found.take cells'.toArray s' = found.take buf' s' :=
          Found.take_congr (hheld found rfl) s'
        dsimp only
        rw [htake]
        rfl

/-! ## Any buffer -/

theorem nextLine_congr [Rewindable σ ε] {w w' : LineScanner σ} (h : w.renewed = w'.renewed)
    (fuel : Nat) :
    (w.nextLine fuel).map (Prod.map id LineScanner.renewed)
      = (w'.nextLine fuel).map (Prod.map id LineScanner.renewed) := by
  obtain ⟨s, o, buffer⟩ := w
  obtain ⟨s', o', buffer'⟩ := w'
  obtain ⟨rfl, rfl, -⟩ := LineScanner.mk.inj h
  have hfill : Fills (Line.scribble '\n' : Fill o.maxLineLength σ ε) := Line.scribble_fills '\n'
  exact (CellScanner.nextLine_eq hfill fuel s none buffer).symm.trans
    (CellScanner.nextLine_eq hfill fuel s none buffer')

theorem draw_congr [Rewindable σ ε] {w w' : LineScanner σ} (h : w.renewed = w'.renewed)
    (fuel : Nat) (d : Draw) :
    (d.run fuel w).map (Prod.map id LineScanner.renewed)
      = (d.run fuel w').map (Prod.map id LineScanner.renewed) := by
  have hline := congrArg (Option.map (Prod.map Drawn.ofLine id)) (nextLine_congr h fuel)
  obtain ⟨s, o, buffer⟩ := w
  obtain ⟨s', o', buffer'⟩ := w'
  obtain ⟨rfl, rfl, -⟩ := LineScanner.mk.inj h
  cases d with
  | line =>
    rw [Option.map_map, Option.map_map] at hline
    rw [Draw.run, Draw.run, Option.map_map, Option.map_map]
    exact hline
  | read n => rfl
  | readChar => rfl
  | skip n => rfl

theorem draws_congr [Rewindable σ ε] {w w' : LineScanner σ} (h : w.renewed = w'.renewed)
    (fuel : Nat) (ds : List Draw) : draws fuel ds w = draws fuel ds w' := by
  induction ds generalizing w w' with
  | nil => rfl
  | cons d ds ih =>
    have hdraw := draw_congr h fuel d
    rw [draws, draws]
    cases hrun : d.run fuel w with
    | none =>
      rw [hrun] at hdraw
      rw [Option.map_eq_none_iff.1 hdraw.symm]
    | some out =>
      obtain ⟨x, w₁⟩ := out
      rw [hrun] at hdraw
      obtain ⟨⟨x', w₁'⟩, hrun', hsame⟩ := Option.map_eq_some_iff.1 hdraw.symm
      obtain ⟨rfl, hrenewed⟩ := Prod.mk.inj hsame
      rw [hrun']
      dsimp only
      rw [ih hrenewed.symm]
      rfl

/-- **A scanner ignores what its buffer holds.** With any other buffer it answers alike and leaves
the source alike, now and in all calls that follow; so it does in cells, whatever they hold. A line
is made of the characters that the reads of its own call have brought. -/
theorem nextLine_ignores_buffer [Rewindable σ ε] (w : LineScanner σ) (fuel : Nat) :
    let answer := (w.nextLine fuel).map (Prod.map id LineScanner.renewed)
    (∀ buffer, (LineScanner.nextLine fuel { w with buffer }).map
        (Prod.map id LineScanner.renewed) = answer) ∧
      (∀ buffer ds, draws fuel ds { w with buffer } = draws fuel ds w) ∧
      (∀ (fill : Fill w.options.maxLineLength σ ε) cells, Fills fill →
        (CellScanner.nextLine fill fuel { source := w.source, cells }).map
          (Prod.map id CellScanner.renewed) = answer) ∧
      ∀ line w', w.nextLine fuel = some (.ok (some line), w') →
        ∃ cs l s₁ s₂ s₃ e, Line.Spilled w.options w.source cs s₁ ∧
          Rewindable.mark w.options.readAhead s₁ = (.ok (), s₂) ∧
          Line.Scanned w.options.maxLineLength s₂ l (.ok e) s₃ ∧
          line = String.ofList (cs ++ l) := by
  intro answer
  have hrenewed (buffer : Array Char) : LineScanner.renewed { w with buffer } = w.renewed := rfl
  refine ⟨?_, ?_, ?_, ?_⟩
  · intro buffer
    exact nextLine_congr (hrenewed buffer) fuel
  · intro buffer ds
    exact draws_congr (hrenewed buffer) fuel ds
  · intro fill cells hfill
    exact CellScanner.nextLine_eq hfill fuel w.source cells w.buffer
  · intro line w' h
    obtain ⟨-, cs, l, e, -, s₁, s₂, s₃, -, hspill, hmark, hs, -, -, hline, -, -⟩ :=
      Line.nextLine_line h
    exact ⟨cs, l, s₁, s₂, s₃, e, hspill, hmark, hs, hline⟩

/-- A carriage return that closes a read, in front of line feeds that are stale. -/
theorem nextLine_ignores_buffer_stale :
    let w : LineScanner (ReplayBuffer (PlannedReader String)) := {
      source := { inner := { text := .ofString "ab\rc", plan := fun _ => .ok 3 }, capacity := 5 }
      options := ⟨4, by decide⟩ }
    let fill : Fill 4 (ReplayBuffer (PlannedReader String)) (ReplayError String) :=
      Line.scribble '\n'
    let stale : Array Char := #['\n', '\n', '\n', '\n']
    Fills fill ∧
      (CellScanner.nextLine fill 2
          ({ source := w.source, cells := some (.replicate 4 '\n') } : CellScanner w.options _)).map
        (Prod.map id (·.source.pending)) = some (.ok (some "ab"), ['c']) ∧
      draws 2 [.line, .line, .line] { w with buffer := stale }
        = some [.line (some "ab"), .line (some "c"), .line none] := by
  intro w fill stale
  have hfill : Fills fill := Line.scribble_fills '\n'
  obtain ⟨-, hdraws, hcells, -⟩ := nextLine_ignores_buffer w 2
  refine ⟨hfill, ?_, ?_⟩
  · have hanswer := congrArg (Option.map (Prod.map id fun w => w.source.pending))
      (hcells fill (some (.replicate 4 '\n')) hfill)
    rw [Option.map_map] at hanswer
    refine hanswer.trans ?_
    decide +kernel
  · rw [hdraws]
    decide +kernel

end CharStream
