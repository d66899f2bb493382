import CharStream.Proofs.DecodedText
import CharStream.Proofs.OwnEncodings
import CharStream.Proofs.Recording

/-!
# The faults of a byte stream

A decoded reader passes on every fault of its byte stream but interruptions, one fault a call.
`faults` lists them with the bytes before each, and `surfaced` lists the faults among answers with
the characters before each. So `surfaced` should list what `faults` does, decoded.

`Left` says what reads have taken from a script, and what is left of it. `Reached` says so of the
reader: as long as it has not seen the end, what it has taken from the script is decoded and handed
out, pending, or held by the decoder; and once it has, all is decoded, and nothing more is taken.

* `refill_fetched` — what one fetch takes from the script.
* `Reached.read_cases` — what one read makes of a reader; `Reached.after_reads` — what any reads do.
* `decodedReader_faults` — which faults surface, where, and when the reader is at its end.
-/

namespace CharStream

variable {L : EncodingLibrary}

/-! ## Faults and what is before them -/

section Behind

variable {α : Type}

/-- Faults, each with what is before it, behind something more. -/
def behind (front : List α) (fs : List (List α × ByteFault)) : List (List α × ByteFault) :=
  fs.map fun f => (front ++ f.1, f.2)

@[simp] theorem behind_nil (front : List α) : behind front [] = [] := rfl

@[simp] theorem behind_cons (front : List α) (f : List α × ByteFault)
    (fs : List (List α × ByteFault)) :
    behind front (f :: fs) = (front ++ f.1, f.2) :: behind front fs := rfl

@[simp] theorem nil_behind (fs : List (List α × ByteFault)) : behind [] fs = fs := List.map_id fs

theorem behind_append (front : List α) (fs gs : List (List α × ByteFault)) :
    behind front (fs ++ gs) = behind front fs ++ behind front gs := List.map_append

theorem append_behind (front next : List α) (fs : List (List α × ByteFault)) :
    behind (front ++ next) fs = behind front (behind next fs) := by
  simp [behind]

@[simp] theorem length_behind (front : List α) (fs : List (List α × ByteFault)) :
    (behind front fs).length = fs.length := List.length_map _

end Behind

/-! ## The faults of a script -/

namespace ByteScript

/-- The faults before the stream ends, each with all the bytes before it. Interruptions are left
out. -/
def faults : ByteScript → List (List UInt8 × ByteFault)
  | [] => []
  | .fault f :: items => if f.kind = .interrupted then faults items else ([], f) :: faults items
  | .bytes [] :: _ => []
  | .bytes (b :: bs) :: items => behind (b :: bs) (faults items)

theorem faults_not_interrupted {script : ByteScript} {bs : List UInt8} {f : ByteFault}
    (h : (bs, f) ∈ script.faults) : f.kind ≠ .interrupted := by
  fun_induction faults script generalizing bs with
  | case1 => cases h
  | case2 g items hg ih => exact ih h
  | case3 g items hg ih =>
    rcases List.mem_cons.1 h with heq | h
    · cases heq
      exact hg
    · exact ih h
  | case4 => cases h
  | case5 b cs items ih =>
    obtain ⟨⟨before, g⟩, hmem, heq⟩ := List.mem_map.1 h
    cases heq
    exact ih hmem

/-- What follows the read that brings nothing. -/
def afterEnd : ByteScript → ByteScript
  | [] => []
  | .fault _ :: items => afterEnd items
  | .bytes [] :: items => items
  | .bytes (_ :: _) :: items => afterEnd items

/-- The script as if the first of its faults had not happened. -/
def withoutFault : ByteScript → ByteScript
  | [] => []
  | .fault f :: items => if f.kind = .interrupted then .fault f :: withoutFault items else items
  | .bytes [] :: items => .bytes [] :: items
  | .bytes (b :: bs) :: items => .bytes (b :: bs) :: withoutFault items

/-- The bytes `bs` and the faults `fs` were taken from a script, and `rest` is left of it. -/
structure Left (script : ByteScript) (bs : List UInt8) (fs : List (List UInt8 × ByteFault))
    (rest : ByteScript) : Prop where
  bytes : script.bytes = bs ++ rest.bytes
  faults : script.faults = fs ++ behind bs rest.faults
  afterEnd : script.afterEnd = rest.afterEnd

theorem Left.refl (script : ByteScript) : Left script [] [] script :=
  ⟨rfl, (nil_behind _).symm, rfl⟩

theorem Left.trans {s t u : ByteScript} {bs cs : List UInt8} {fs gs : List (List UInt8 × ByteFault)}
    (hst : Left s bs fs t) (htu : Left t cs gs u) :
    Left s (bs ++ cs) (fs ++ behind bs gs) u := by
  refine ⟨?_, ?_, hst.afterEnd.trans htu.afterEnd⟩
  · rw [hst.bytes, htu.bytes, List.append_assoc]
  · rw [hst.faults, htu.faults, behind_append, append_behind, List.append_assoc]

variable {n : Nat} {script rest : ByteScript}

theorem left_of_read_interrupted {f : ByteFault} (h : read n script = (.error f, rest))
    (hf : f.kind = .interrupted) : Left script [] [] rest := by
  rw [read_error_inv h]
  refine ⟨rfl, ?_, rfl⟩
  rw [ByteScript.faults, if_pos hf, nil_behind]
  rfl

theorem left_of_read_error {f : ByteFault} (h : read n script = (.error f, rest))
    (hf : f.kind ≠ .interrupted) : Left script [] [([], f)] rest := by
  rw [read_error_inv h]
  refine ⟨rfl, ?_, rfl⟩
  rw [ByteScript.faults, if_neg hf, nil_behind]
  rfl

theorem left_of_read_cons {b : UInt8} {bs : List UInt8}
    (h : read n script = (.ok (b :: bs), rest)) :
    Left script (b :: bs) [] rest := by
  refine ⟨bytes_of_read_cons h, ?_, ?_⟩
  · rcases read_cons_inv h with rfl | ⟨c, cs, items, rfl, rfl⟩
    · rfl
    · exact append_behind (b :: bs) (c :: cs) (ByteScript.faults items)
  · rcases read_cons_inv h with rfl | ⟨c, cs, items, rfl, rfl⟩
    · rfl
    · rfl

theorem of_read_nil (hn : 0 < n) (h : read n script = (.ok [], rest)) :
    script.bytes = [] ∧ script.faults = [] ∧ script.afterEnd = rest := by
  rcases read_nil_inv hn h with rfl | ⟨later, rfl⟩
  · cases h
    exact ⟨rfl, rfl, rfl⟩
  · rw [read, List.drop_nil, List.take_nil] at h
    cases h
    exact ⟨rfl, rfl, rfl⟩

theorem withoutFault_of_read_interrupted {f : ByteFault} (h : read n script = (.error f, rest))
    (hf : f.kind = .interrupted) :
    read n script.withoutFault = (.error f, rest.withoutFault) := by
  rw [read_error_inv h, withoutFault, if_pos hf]
  rfl

theorem withoutFault_of_read_error {f : ByteFault} (h : read n script = (.error f, rest))
    (hf : f.kind ≠ .interrupted) : script.withoutFault = rest := by
  rw [read_error_inv h, withoutFault, if_neg hf]

/-- Up to the first fault, reads do not see that it is gone. -/
theorem withoutFault_of_read_cons {b : UInt8} {bs : List UInt8}
    (h : read n script = (.ok (b :: bs), rest)) :
    read n script.withoutFault = (.ok (b :: bs), rest.withoutFault) := by
  match script with
  | [] => cases h
  | .fault g :: items => cases h
  | .bytes [] :: items =>
    rw [read, List.drop_nil, List.take_nil] at h
    cases h
  | .bytes (c :: cs) :: items =>
    rw [read] at h
    rw [withoutFault, read]
    cases hdrop : (c :: cs).drop n with
    | nil =>
      rw [hdrop] at h
      obtain ⟨htake, rfl⟩ := Prod.mk.inj h
      rw [htake]
    | cons d ds =>
      rw [hdrop] at h
      obtain ⟨htake, rfl⟩ := Prod.mk.inj h
      rw [htake]
      rfl

end ByteScript

namespace DecodedReader

open ByteScript (Left)

variable {r r' : DecodedReader L}

theorem Stores.pending (h : r.Stores []) : r.pending = 0 := by
  obtain ⟨front, htext, hoffset⟩ := h
  rw [DecodedReader.pending, htext, hoffset, List.append_nil, Nat.sub_self]

/-! ## Fetching -/

/-- What a fetch takes from the script: the bytes up to a fault, which completed no character; those
that completed the next; or all that are left, and then the decoder is flushed. -/
inductive Fetched (r : DecodedReader L) : Except ByteFault Bool → DecodedReader L → Prop
  | failed {f : ByteFault} {bs : List UInt8} {r' : DecodedReader L} :
      f.kind ≠ .interrupted → Left r.script bs [(bs, f)] r'.script →
      L.feed r.decoder bs = ([], r'.decoder) → r'.Stores [] → r'.finished = false →
      Fetched r (.error f) r'
  | text {bs : List UInt8} {r' : DecodedReader L} :
      Left r.script bs [] r'.script → L.feed r.decoder bs = (r'.text, r'.decoder) →
      r'.text ≠ [] → r'.Stores r'.text → r'.finished = false → Fetched r (.ok true) r'
  | ended {more : Bool} {r' : DecodedReader L} :
      r.script.faults = [] → r'.script = r.script.afterEnd →
      L.decodeAll r.decoder r.script.bytes = r'.text → more = !r'.text.isEmpty →
      r'.Stores r'.text → r'.finished = true → Fetched r (.ok more) r'

section Laws

variable (hL : L.Streams) (hroom : L.Suffices chunkSize)

include hL in
theorem Fetched.after {r₁ : DecodedReader L} {x : Except ByteFault Bool} {bs : List UInt8}
    (h : Fetched r₁ x r') (hleft : Left r.script bs [] r₁.script)
    (hfeed : L.feed r.decoder bs = ([], r₁.decoder)) : Fetched r x r' := by
  have hfeed' (cs : List UInt8) : L.feed r.decoder (bs ++ cs) = L.feed r₁.decoder cs := by
    rw [hL.feed_append, hfeed]
    rfl
  cases h with
  | @failed f cs _ hf hscript hdecoder hstores hfin =>
    exact .failed hf (hleft.trans hscript) ((hfeed' cs).trans hdecoder) hstores hfin
  | @text cs _ hscript hdecoder hne hstores hfin =>
    exact .text (hleft.trans hscript) ((hfeed' cs).trans hdecoder) hne hstores hfin
  | ended hfaults hscript hdecode hmore hstores hfin =>
    refine .ended ?_ (hscript.trans hleft.afterEnd.symm) ?_ hmore hstores hfin
    · rw [hleft.faults, hfaults]
      rfl
    · rw [hleft.bytes, hL.decodeAll_append, hfeed]
      exact hdecode

include hroom in
theorem decodeChunk_cons {b : UInt8} {bs : List UInt8} {script : ByteScript} {r₁ : DecodedReader L}
    {x : Except ByteFault Unit} (hread : r.script.read chunkSize = (.ok (b :: bs), script))
    (hchunk : decodeChunk (b :: bs) { r with script } = (x, r₁)) :
    x = .ok () ∧ r₁.script = script ∧ L.feed r.decoder (b :: bs) = (r₁.text, r₁.decoder) ∧
      r₁.finished = false := by
  rw [decodeChunk_eq hroom (ByteScript.length_read_le hread)] at hchunk
  cases hchunk
  exact ⟨rfl, rfl, rfl, rfl⟩

include hroom in
theorem decodeChunk_nil {script : ByteScript} {r₁ : DecodedReader L} {x : Except ByteFault Unit}
    (hchunk : decodeChunk [] { r with script } = (x, r₁)) :
    x = .ok () ∧ r₁.script = script ∧ L.decodeAll r.decoder [] = r₁.text ∧
      r₁.finished = true := by
  rw [decodeChunk_eq hroom (Nat.zero_le _)] at hchunk
  cases hchunk
  exact ⟨rfl, rfl, rfl, rfl⟩

include hroom in
theorem Fetched.of_nil {script : ByteScript} {r₁ : DecodedReader L}
    (hread : r.script.read chunkSize = (.ok [], script))
    (hchunk : decodeChunk [] { r with script } = (.ok (), r₁)) :
    Fetched r (.ok !r₁.text.isEmpty) r₁ := by
  obtain ⟨hbytes, hfaults, hscript⟩ := ByteScript.of_read_nil (by decide) hread
  obtain ⟨-, hscript', htext, hfin⟩ := decodeChunk_nil hroom hchunk
  refine .ended hfaults (hscript'.trans hscript.symm) ?_ rfl (decodeChunk_stores hchunk) hfin
  rw [hbytes]
  exact htext

include hL hroom

/-- **What a fetch takes** where nothing is pending and the end was not seen. -/
theorem refill_fetched {x : Except ByteFault Bool} (hr : r.Stores []) (hfin : r.finished = false)
    (h : r.refill = (x, r')) : Fetched r x r' := by
  fun_induction refill r with
  | case1 r hfin' =>
    rw [hfin] at hfin'
    cases hfin'
  | case2 r _ f script hread hint ih =>
    exact (ih hr hfin h).after hL (ByteScript.left_of_read_interrupted hread hint) (hL.feed_nil _)
  | case3 r _ f script hread hint =>
    cases h
    exact .failed hint (ByteScript.left_of_read_error hread hint) (hL.feed_nil _) hr hfin
  | case4 r _ bytes script hread f r₁ hchunk =>
    rw [decodeChunk_eq hroom (ByteScript.length_read_le hread)] at hchunk
    cases hchunk
  | case5 r _ bytes script hread r₁ hchunk hempty ih =>
    have htext : r₁.text = [] := List.isEmpty_iff.1 hempty
    cases bytes with
    | nil =>
      rw [refill_of_finished (decodeChunk_nil hroom hchunk).2.2.2] at h
      cases h
      have hended := Fetched.of_nil hroom hread hchunk
      rwa [hempty] at hended
    | cons b bs =>
      obtain ⟨-, hscript, hfeed, hfin₁⟩ := decodeChunk_cons hroom hread hchunk
      have hstores := decodeChunk_stores hchunk
      rw [htext] at hfeed hstores
      refine (ih hstores hfin₁ h).after hL ?_ hfeed
      rw [hscript]
      exact ByteScript.left_of_read_cons hread
  | case6 r _ bytes script hread r₁ hchunk hne =>
    simp only [Prod.mk.injEq] at h
    obtain ⟨rfl, rfl⟩ := h
    cases bytes with
    | nil =>
      have hended := Fetched.of_nil hroom hread hchunk
      rwa [Bool.eq_false_iff.2 hne] at hended
    | cons b bs =>
      obtain ⟨-, hscript, hfeed, hfin₁⟩ := decodeChunk_cons hroom hread hchunk
      have htext : r₁.text ≠ [] := fun htext => hne (List.isEmpty_iff.2 htext)
      refine .text ?_ hfeed htext (decodeChunk_stores hchunk) hfin₁
      rw [hscript]
      exact ByteScript.left_of_read_cons hread

omit hL in
/-- **A fetch that failed can be repeated**, and does what it would have done without the fault. -/
theorem refill_withoutFault {f : ByteFault} (h : r.refill = (.error f, r')) :
    refill { r with script := r.script.withoutFault } = r'.refill := by
  fun_induction refill r with
  | case1 r hfin => cases h
  | case2 r hfin f' script hread hint ih =>
    rw [← ih h]
    have hread' := ByteScript.withoutFault_of_read_interrupted hread hint
    exact (refill_of_error (r := { r with script := r.script.withoutFault }) hfin hread').trans
      (if_pos hint)
  | case3 r hfin f' script hread hint =>
    cases h
    rw [ByteScript.withoutFault_of_read_error hread hint]
  | case4 r hfin bytes script hread f' r₁ hchunk =>
    rw [decodeChunk_eq hroom (ByteScript.length_read_le hread)] at hchunk
    cases hchunk
  | case5 r hfin bytes script hread r₁ hchunk hempty ih =>
    have hlength := ByteScript.length_read_le hread
    cases bytes with
    | nil =>
      rw [refill_of_finished (decodeChunk_nil hroom hchunk).2.2.2] at h
      cases h
    | cons b bs =>
      rw [← ih h]
      rw [decodeChunk_eq hroom hlength] at hchunk
      cases hchunk
      have hread' := ByteScript.withoutFault_of_read_cons hread
      have hchunk' := decodeChunk_eq hroom hlength { r with script := script.withoutFault }
      exact (refill_of_chunk (r := { r with script := r.script.withoutFault }) hfin hread'
        hchunk').trans (if_pos hempty)
  | case6 r hfin bytes script hread r₁ hchunk hne => cases h

end Laws

/-! ## Reading -/

/-- The faults among answers, each with the characters that came before it. -/
def surfaced : List (Except ByteFault (List Char)) → List (List Char × ByteFault)
  | [] => []
  | .ok cs :: xs => behind cs (surfaced xs)
  | .error f :: xs => ([], f) :: surfaced xs

theorem surfaced_append (xs ys : List (Except ByteFault (List Char))) :
    surfaced (xs ++ ys) = surfaced xs ++ behind (delivered xs) (surfaced ys) := by
  induction xs with
  | nil => exact (nil_behind _).symm
  | cons x xs ih =>
    cases x with
    | ok cs =>
      show behind cs (surfaced (xs ++ ys))
        = behind cs (surfaced xs) ++ behind (cs ++ delivered xs) (surfaced ys)
      rw [ih, behind_append, append_behind]
    | error f =>
      show ([], f) :: surfaced (xs ++ ys) = ([], f) :: (surfaced xs ++ behind _ (surfaced ys))
      rw [ih]
      rfl

theorem mem_surfaced {f : ByteFault} {xs : List (Except ByteFault (List Char))}
    (h : .error f ∈ xs) : ∃ cs, (cs, f) ∈ surfaced xs := by
  induction xs with
  | nil => cases h
  | cons x xs ih =>
    cases x with
    | ok cs =>
      obtain ⟨before, hmem⟩ : ∃ before, (before, f) ∈ surfaced xs := by
        apply ih
        rcases List.mem_cons.1 h with heq | h
        · cases heq
        · exact h
      exact ⟨cs ++ before, List.mem_map_of_mem hmem⟩
    | error g =>
      rcases List.mem_cons.1 h with heq | h
      · cases heq
        exact ⟨[], List.mem_cons_self⟩
      · obtain ⟨before, hmem⟩ := ih h
        exact ⟨before, List.mem_cons_of_mem _ hmem⟩

/-- Reads one after the other: the answers, and the reader after them. -/
def reads : List Nat → DecodedReader L → List (Except ByteFault (List Char)) × DecodedReader L
  | [], r => ([], r)
  | n :: ns, r =>
    match r.read n with
    | (x, r) =>
      match reads ns r with
      | (xs, r) => (x :: xs, r)

section Reached

variable (script : ByteScript) (d : L.Decoder)

/-- Faults with the characters before them, decoded from the bytes before them. -/
def decodedFaults (fs : List (List UInt8 × ByteFault)) : List (List Char × ByteFault) :=
  fs.map fun f => ((L.feed d f.1).1, f.2)

/-- Where a reader is in the script after the answers `xs`. What it has taken is decoded, and the
decoder holds the rest; what is decoded is handed out or pending; and the faults that it has come
across have surfaced. -/
inductive Reached (xs : List (Except ByteFault (List Char))) (r : DecodedReader L)
    (pending : List Char) : Prop
  | fetching {bs : List UInt8} {fs : List (List UInt8 × ByteFault)} :
      r.finished = false → Left script bs fs r.script →
      L.feed d bs = (delivered xs ++ pending, r.decoder) → surfaced xs = decodedFaults d fs →
      r.Stores pending → Reached xs r pending
  | finished :
      r.finished = true → r.script = script.afterEnd →
      L.decodeAll d script.bytes = delivered xs ++ pending →
      surfaced xs = decodedFaults d script.faults → r.Stores pending → Reached xs r pending

/-- What a read brings, and where it leaves the reader. -/
inductive Answered (xs : List (Except ByteFault (List Char))) (n : Nat) :
    Except ByteFault (List Char) → DecodedReader L → Prop
  | chars {cs pending : List Char} {r' : DecodedReader L} :
      (0 < n → cs ≠ []) → Reached script d (xs ++ [.ok cs]) r' pending → Answered xs n (.ok cs) r'
  | failed {f : ByteFault} {before : List UInt8} {r' : DecodedReader L} :
      f.kind ≠ .interrupted → script.faults[(surfaced xs).length]? = some (before, f) →
      L.feed d before = (delivered xs, r'.decoder) → r'.finished = false →
      Reached script d (xs ++ [.error f]) r' [] → Answered xs n (.error f) r'
  | ended {r' : DecodedReader L} :
      r'.finished = true → Reached script d (xs ++ [.ok []]) r' [] → Answered xs n (.ok []) r'

variable {script d} {xs : List (Except ByteFault (List Char))} {pending : List Char} {n : Nat}

theorem Reached.stores (h : Reached script d xs r pending) : r.Stores pending := by
  cases h with
  | fetching _ _ _ _ hstores => exact hstores
  | finished _ _ _ _ hstores => exact hstores

theorem Reached.handOut (h : Reached script d xs r pending) (n : Nat) :
    Reached script d (xs ++ [.ok (pending.take n)]) (r.handOut n pending).2 (pending.drop n) := by
  have hdelivered : delivered (xs ++ [.ok (pending.take n)]) ++ pending.drop n
      = delivered xs ++ pending := by
    rw [delivered_append, List.append_assoc]
    congr 1
    show pending.take n ++ [] ++ pending.drop n = pending
    rw [List.append_nil, List.take_append_drop]
  have hsurfaced : surfaced (xs ++ [.ok (pending.take n)]) = surfaced xs := by
    rw [surfaced_append]
    exact List.append_nil _
  obtain ⟨-, hstores⟩ := h.stores.handOut n
  cases h with
  | fetching hfin hleft hfeed hfaults =>
    rw [← hdelivered] at hfeed
    rw [← hsurfaced] at hfaults
    exact .fetching hfin hleft hfeed hfaults hstores
  | finished hfin hscript hdecode hfaults =>
    rw [← hdelivered] at hdecode
    rw [← hsurfaced] at hfaults
    exact .finished hfin hscript hdecode hfaults hstores

theorem Reached.chars {c : Char} {cs : List Char} (h : Reached script d xs r (c :: cs))
    (hn : 0 < n) :
    Answered script d xs n (.ok (r.handOut n (c :: cs)).1) (r.handOut n (c :: cs)).2 := by
  obtain ⟨n, rfl⟩ := Nat.exists_eq_succ_of_ne_zero (Nat.ne_of_gt hn)
  refine .chars ?_ (h.handOut (n + 1))
  intro _ hnil
  cases hnil

theorem Reached.taken (hfin : r.finished = false) (h : Reached script d xs r []) :
    ∃ bs fs, Left script bs fs r.script ∧ L.feed d bs = (delivered xs, r.decoder) ∧
      surfaced xs = decodedFaults d fs := by
  cases h with
  | finished hfin' =>
    rw [hfin] at hfin'
    cases hfin'
  | @fetching bs fs _ hleft htaken hfaults =>
    rw [List.append_nil] at htaken
    exact ⟨bs, fs, hleft, htaken, hfaults⟩

theorem Answered.reached {x : Except ByteFault (List Char)} (h : Answered script d xs n x r') :
    ∃ pending, Reached script d (xs ++ [x]) r' pending := by
  cases h with
  | @chars cs pending _ _ h => exact ⟨pending, h⟩
  | failed _ _ _ _ h => exact ⟨[], h⟩
  | ended _ h => exact ⟨[], h⟩

theorem Reached.surfaced_prefix (h : Reached script d xs r pending) :
    surfaced xs <+: decodedFaults d script.faults := by
  cases h with
  | @fetching bs fs _ hleft _ hfaults =>
    rw [hfaults, hleft.faults, decodedFaults, decodedFaults, List.map_append]
    exact List.prefix_append _ _
  | finished _ _ _ hfaults => exact ⟨[], by rw [hfaults, List.append_nil]⟩

theorem Reached.all_surfaced (h : Reached script d xs r pending) (hfin : r.finished = true) :
    surfaced xs = decodedFaults d script.faults := by
  cases h with
  | fetching hfin' =>
    rw [hfin] at hfin'
    cases hfin'
  | finished _ _ _ hfaults => exact hfaults

theorem Reached.not_interrupted (h : Reached script d xs r pending) {f : ByteFault}
    (hf : .error f ∈ xs) : f.kind ≠ .interrupted := by
  obtain ⟨cs, hmem⟩ := mem_surfaced hf
  obtain ⟨⟨before, g⟩, hg, heq⟩ := List.mem_map.1 (h.surfaced_prefix.subset hmem)
  cases heq
  exact ByteScript.faults_not_interrupted hg

theorem Reached.all_handed_out (h : Reached script d (xs ++ [.ok []]) r [])
    (hfin : r.finished = true) :
    r.script = script.afterEnd ∧ delivered xs = L.decodeAll d script.bytes ∧
      surfaced xs = decodedFaults d script.faults := by
  have hsurfaced := h.all_surfaced hfin
  cases h with
  | fetching hfin' =>
    rw [hfin] at hfin'
    cases hfin'
  | finished _ hscript hdecode =>
    rw [surfaced_append] at hsurfaced
    rw [delivered_append] at hdecode
    exact ⟨hscript, by simpa [delivered] using hdecode.symm, by simpa [surfaced] using hsurfaced⟩

theorem read_of_finished (hfin : r.finished = true) (hr : r.Stores []) (n : Nat) :
    r.read n = (.ok [], r) := by
  by_cases hn : n = 0
  · rw [DecodedReader.read, if_pos hn]
  · rw [read_of_refill (Nat.pos_of_ne_zero hn) hr.unread (refill_of_finished hfin)]

theorem reads_of_finished (hfin : r.finished = true) (hr : r.Stores []) (ns : List Nat) :
    reads ns r = (List.replicate ns.length (.ok []), r) := by
  induction ns with
  | nil => rfl
  | cons n ns ih =>
    simp only [reads, read_of_finished hfin hr, ih, List.length_cons,
      List.replicate_succ]

section Laws

variable (hL : L.Streams) (hroom : L.Suffices chunkSize)

include hL in
theorem Reached.length_delivered_le (h : Reached script d xs r pending) :
    (delivered xs).length ≤ (L.decodeAll d script.bytes).length := by
  cases h with
  | @fetching bs fs _ hleft htaken =>
    rw [hleft.bytes, hL.decodeAll_append, htaken]
    simp only [List.length_append]
    omega
  | finished _ _ hdecode =>
    rw [hdecode, List.length_append]
    omega

include hroom in
/-- A read that failed with nothing pending can be repeated. -/
theorem read_withoutFault {f : ByteFault} (h : r.read n = (.error f, r')) (hr : r'.unread = []) :
    DecodedReader.read n { r with script := r.script.withoutFault } = r'.read n := by
  rw [DecodedReader.read] at h
  split at h
  · cases h
  · next hn =>
    split at h
    · cases h
    · next hunread =>
      split at h
      · next f' r₁ hrefill =>
        cases h
        have hsame : ({ r with script := r.script.withoutFault } : DecodedReader L).unread = [] :=
          hunread
        rw [DecodedReader.read, DecodedReader.read, if_neg hn, if_neg hn, hsame, hr,
          refill_withoutFault hroom hrefill]
      · cases h
      · cases h

include hL hroom

/-- A fetch that fails has come to the next fault of the script. -/
theorem Reached.failed {f : ByteFault} (hfin : r.finished = false)
    (h : Reached script d xs r []) (hrefill : r.refill = (.error f, r')) :
    Answered script d xs n (.error f) r' := by
  obtain ⟨bs, fs, hleft, htaken, hfaults⟩ := h.taken hfin
  cases refill_fetched hL hroom h.stores hfin hrefill with
  | @failed _ cs _ hf hleft' hfeed hstores hfin' =>
    have hboth := hleft.trans hleft'
    have hdecoder : L.feed d (bs ++ cs) = (delivered xs, r'.decoder) := by
      rw [hL.feed_append, htaken, hfeed, List.append_nil]
    refine .failed hf ?_ hdecoder hfin' (.fetching hfin' hboth ?_ ?_ hstores)
    · rw [hboth.faults, hfaults]
      simp [decodedFaults]
    · rw [hdecoder, delivered_append]
      simp [delivered]
    · rw [surfaced_append, hfaults]
      simp [decodedFaults, surfaced, hdecoder]

/-- A fetch that does not fail has made its text pending, and finds none only at the end. -/
theorem Reached.fetched {more : Bool} (hfin : r.finished = false)
    (h : Reached script d xs r []) (hrefill : r.refill = (.ok more, r')) :
    Reached script d xs r' r'.text ∧ more = !r'.text.isEmpty ∧ (r'.text = [] → r'.finished) := by
  obtain ⟨bs, fs, hleft, htaken, hfaults⟩ := h.taken hfin
  cases refill_fetched hL hroom h.stores hfin hrefill with
  | @text cs _ hleft' hfeed htext hstores hfin' =>
    refine ⟨.fetching hfin' (hleft.trans hleft') ?_ ?_ hstores, ?_, fun hnil => absurd hnil htext⟩
    · rw [hL.feed_append, htaken, hfeed]
    · rw [behind_nil, List.append_nil]
      exact hfaults
    · rw [List.isEmpty_eq_false_iff.2 htext]
      rfl
  | ended hnone hscript hdecode hmore hstores hfin' =>
    refine ⟨.finished hfin' (hscript.trans hleft.afterEnd.symm) ?_ ?_ hstores, hmore,
      fun _ => hfin'⟩
    · rw [hleft.bytes, hL.decodeAll_append, htaken, hdecode]
    · rw [hfaults, hleft.faults, hnone, behind_nil, List.append_nil]

/-- **What a read makes of a reader.** -/
theorem Reached.read_cases {x : Except ByteFault (List Char)} (h : Reached script d xs r pending)
    (hread : r.read n = (x, r')) : Answered script d xs n x r' := by
  by_cases hn : n = 0
  · rw [DecodedReader.read, if_pos hn] at hread
    cases hread
    refine .chars ?_ (h.handOut 0)
    intro hpos
    omega
  have hn : 0 < n := Nat.pos_of_ne_zero hn
  cases pending with
  | cons c cs =>
    rw [read_of_unread hn h.stores.unread] at hread
    cases hread
    exact h.chars hn
  | nil =>
    by_cases hfin : r.finished = true
    · rw [read_of_refill hn h.stores.unread (refill_of_finished hfin)] at hread
      cases hread
      exact .ended hfin (h.handOut 0)
    have hfin : r.finished = false := Bool.eq_false_iff.2 hfin
    rcases hrefill : r.refill with ⟨f | more, r₁⟩
    · rw [read_of_refill hn h.stores.unread hrefill] at hread
      cases hread
      exact h.failed hL hroom hfin hrefill
    · obtain ⟨h₁, hmore, hend⟩ := h.fetched hL hroom hfin hrefill
      rw [read_of_refill hn h.stores.unread hrefill, hmore] at hread
      cases htext : r₁.text with
      | nil =>
        rw [htext] at h₁ hread
        cases hread
        exact .ended (hend htext) (h₁.handOut 0)
      | cons c cs =>
        rw [htext] at h₁ hread
        simp only [h₁.stores.unread] at hread
        cases hread
        exact h₁.chars hn

/-- **What any reads make of a reader.** -/
theorem Reached.after_reads {ns : List Nat} {ys : List (Except ByteFault (List Char))}
    (h : Reached script d xs r pending) (hreads : reads ns r = (ys, r')) :
    ∃ pending, Reached script d (xs ++ ys) r' pending := by
  induction ns generalizing xs ys r pending with
  | nil =>
    cases hreads
    rw [List.append_nil]
    exact ⟨pending, h⟩
  | cons n ns ih =>
    rcases hread : r.read n with ⟨x, r₁⟩
    rcases hrest : reads ns r₁ with ⟨zs, r₂⟩
    simp only [reads, hread, hrest] at hreads
    cases hreads
    obtain ⟨pending₁, h₁⟩ := (h.read_cases hL hroom hread).reached
    obtain ⟨pending₂, h₂⟩ := ih h₁ hrest
    rw [List.append_assoc] at h₂
    exact ⟨pending₂, h₂⟩

/-- As long as the end is not seen, each read of positive length brings a character or a fault. -/
theorem Reached.length_le {ns : List Nat} {ys : List (Except ByteFault (List Char))}
    (h : Reached script d xs r pending) (hns : ∀ n ∈ ns, 0 < n) (hreads : reads ns r = (ys, r'))
    (hfin : r'.finished = false) :
    ns.length ≤ (delivered ys).length + (surfaced ys).length := by
  induction ns generalizing xs ys r pending with
  | nil => exact Nat.zero_le _
  | cons n ns ih =>
    rcases hread : r.read n with ⟨x, r₁⟩
    rcases hrest : reads ns r₁ with ⟨zs, r₂⟩
    simp only [reads, hread, hrest] at hreads
    cases hreads
    have hcase := h.read_cases hL hroom hread
    obtain ⟨pending₁, h₁⟩ := hcase.reached
    have hle := ih h₁ (fun n hn => hns n (List.mem_cons_of_mem _ hn)) hrest
    cases hcase with
    | @chars cs _ _ hne =>
      have hpos := List.length_pos_iff.2 (hne (hns n List.mem_cons_self))
      have hdelivered : (delivered (.ok cs :: zs)).length = cs.length + (delivered zs).length :=
        List.length_append
      have hsurfaced : (surfaced (.ok cs :: zs)).length = (surfaced zs).length := length_behind _ _
      rw [hdelivered, hsurfaced, List.length_cons]
      omega
    | @failed f =>
      have hdelivered : delivered (.error f :: zs) = delivered zs := rfl
      have hsurfaced : surfaced (.error f :: zs) = ([], f) :: surfaced zs := rfl
      rw [hdelivered, hsurfaced, List.length_cons, List.length_cons]
      omega
    | ended hend h₁ =>
      rw [reads_of_finished hend h₁.stores] at hrest
      cases hrest
      rw [hend] at hfin
      cases hfin

/-- A read of positive length that brings nothing is behind the end. -/
theorem Reached.ended (h : Reached script d xs r pending) (hn : 0 < n)
    (hread : r.read n = (.ok [], r')) :
    r'.finished = true ∧ Reached script d (xs ++ [.ok []]) r' [] := by
  generalize hx : (.ok [] : Except ByteFault (List Char)) = x at hread
  cases h.read_cases hL hroom hread with
  | chars hne =>
    cases hx
    exact absurd rfl (hne hn)
  | failed => cases hx
  | ended hfin h' => exact ⟨hfin, h'⟩

end Laws

end Reached

end DecodedReader

open DecodedReader in
/-- **The faults of a byte stream surface** one by one and in order, each when all that the bytes
before it decode to has been handed out; interruptions never do. A read that fails can be repeated
as if it had not been made. One that brings nothing is behind the end of the stream: all has been
handed out, every fault has surfaced, and nothing more is read. -/
theorem decodedReader_faults (hL : L.Streams) (hroom : L.Suffices chunkSize) (script : ByteScript)
    (encoding : L.Encoding) (ns : List Nat) :
    let d := L.newDecoder encoding
    let xs := (reads ns (DecodedReader.ofEncoding script encoding)).1
    let r := (reads ns (DecodedReader.ofEncoding script encoding)).2
    ((∀ f, .error f ∈ xs → f.kind ≠ .interrupted) ∧
        surfaced xs <+: decodedFaults d script.faults ∧
        (r.finished = true → surfaced xs = decodedFaults d script.faults) ∧
        ((∀ n ∈ ns, 0 < n) →
          (L.decodeAll d script.bytes).length + script.faults.length < ns.length →
          r.finished = true)) ∧
      (∀ n f r', r.read n = (.error f, r') →
        (∃ before, script.faults[(surfaced xs).length]? = some (before, f) ∧
          L.feed d before = (delivered xs, r'.decoder)) ∧
        r'.unread = [] ∧ r'.pending = 0 ∧ r'.finished = false ∧
        r'.read n = DecodedReader.read n { r with script := r.script.withoutFault }) ∧
      ∀ n r', 0 < n → r.read n = (.ok [], r') →
        r'.finished = true ∧ r'.script = script.afterEnd ∧
          delivered xs = L.decodeAll d script.bytes ∧
          surfaced xs = decodedFaults d script.faults ∧
          ∀ ms, reads ms r' = (List.replicate ms.length (.ok []), r') := by
  intro d xs r
  have hstart : Reached script d [] (DecodedReader.ofEncoding script encoding) [] :=
    .fetching rfl (.refl script) (hL.feed_nil d) rfl ⟨[], rfl, rfl⟩
  have hreads : reads ns (DecodedReader.ofEncoding script encoding) = (xs, r) := rfl
  obtain ⟨pending, hreached⟩ := hstart.after_reads hL hroom hreads
  rw [List.nil_append] at hreached
  refine ⟨⟨fun f hf => hreached.not_interrupted hf, hreached.surfaced_prefix,
    hreached.all_surfaced, ?_⟩, ?_, ?_⟩
  · intro hns hlength
    apply Bool.of_not_eq_false
    intro hfin
    have hle := hstart.length_le hL hroom hns hreads hfin
    have hdelivered := hreached.length_delivered_le hL
    have hsurfaced := hreached.surfaced_prefix.length_le
    rw [decodedFaults, List.length_map] at hsurfaced
    omega
  · intro n f r' hread
    cases hreached.read_cases hL hroom hread with
    | @failed _ before _ _ hfault hdecoder hfin h₁ =>
      have hunread := h₁.stores.unread
      exact ⟨⟨before, hfault, hdecoder⟩, hunread, h₁.stores.pending, hfin,
        (read_withoutFault hroom hread hunread).symm⟩
  · intro n r' hn hread
    obtain ⟨hfin, h₁⟩ := hreached.ended hL hroom hn hread
    obtain ⟨hscript, hdelivered, hsurfaced⟩ := h₁.all_handed_out hfin
    exact ⟨hfin, hscript, hdelivered, hsurfaced, reads_of_finished hfin h₁.stores⟩

open DecodedReader in
/-- A fault within a character, behind an interruption, one at the end, and bytes after the end. -/
theorem decodedReader_faults_cut :
    let script : ByteScript := [.bytes [0x61, 0xC3], .fault ⟨.interrupted, "again"⟩,
      .fault ⟨.wouldBlock, "later"⟩, .bytes [0xA9], .fault ⟨.other, "gone"⟩, .bytes [],
      .bytes [0x7A]]
    let start : DecodedReader .own := .ofEncoding script .utf8
    let r := (reads [4] start).2
    let r₁ := (reads [4, 4, 4, 4] start).2
    (EncodingLibrary.own.Streams ∧ EncodingLibrary.own.Suffices chunkSize) ∧
    ((r.read 4).1 = .error ⟨.wouldBlock, "later"⟩ ∧ (r.read 4).2.finished = false ∧
        (r.read 4).2.read 4 = DecodedReader.read 4 { r with script := r.script.withoutFault }) ∧
      (surfaced (reads [4, 4, 4, 4] start).1
          = [(['a'], ⟨.wouldBlock, "later"⟩), (['a', 'é'], ⟨.other, "gone"⟩)] ∧
        (r₁.read 1).1 = .ok [] ∧ (r₁.read 1).2.script = [.bytes [0x7A]] ∧
        reads [1, 2] (r₁.read 1).2 = ([.ok [], .ok []], (r₁.read 1).2)) ∧
      (reads [4, 4, 4, 4, 4] start).2.finished = true := by
  intro script start r r₁
  have hL := EncodingLibrary.own_streams
  have hroom := EncodingLibrary.own_suffices chunkSize
  have hfault : (r.read 4).1 = .error ⟨.wouldBlock, "later"⟩ := by decide +kernel
  have hnone : (r₁.read 1).1 = .ok [] := by decide +kernel
  obtain ⟨-, hfails, -⟩ := decodedReader_faults hL hroom script .utf8 [4]
  obtain ⟨-, -, -, hfin, hretry⟩ := hfails 4 _ _ (Prod.ext hfault rfl)
  obtain ⟨-, -, hends⟩ := decodedReader_faults hL hroom script .utf8 [4, 4, 4, 4]
  obtain ⟨-, hscript, -, hsurfaced, hstays⟩ := hends 1 _ Nat.one_pos (Prod.ext hnone rfl)
  obtain ⟨⟨-, -, -, hfinished⟩, -⟩ := decodedReader_faults hL hroom script .utf8 [4, 4, 4, 4, 4]
  refine ⟨⟨hL, hroom⟩, ⟨hfault, hfin, hretry⟩, ⟨?_, hnone, hscript, hstays [1, 2]⟩, ?_⟩
  · rw [hsurfaced]
    decide +kernel
  · exact hfinished (by decide) (by decide +kernel)

end CharStream
