import CharStream.Proofs.DecodedFaults
import CharStream.Proofs.Pulls

/-!
# The offset of a decoded reader

The offset counts bytes, and what is handed out is counted in characters. `sliceFrom?` takes the
text from an offset on as its bytes allow it: only if the offset is in the text and no character
begins before it and ends behind it. `read?` is the read that takes such a slice instead of counting
characters off, and `pending?` subtracts the offset only if it is not too large.

The invariant is `Stores`: the offset is the size of what was handed out of the text.
`stores_iff_isValid` says that this is all that a slice needs. Every read keeps it, whether it hands
out, fetches, flushes or fails, and whatever the decoder does.

What has been decoded is not in the state of a reader. So the decoders of `EncodingLibrary.logged`
keep it: they decode like those of the library, and know what they have decoded so far. To forget it
again makes no difference to any call (`run_forget`).

* `Stores.slice`, `Stores.read?` — the slice is there, and to take it is to read.
* `Accounted.pulls` — what was decoded is what was handed out and what is pending.
* `decodedReader_offset` — what this says of the offset and of what is pending.
-/

namespace CharStream

variable {L : EncodingLibrary}

/-! ## Slices of a text -/

theorem utf8Size_eq (cs : List Char) : utf8Size cs = (String.ofList cs).utf8ByteSize := by
  induction cs with
  | nil => rfl
  | cons c cs ih =>
    have hsplit : String.ofList (c :: cs) = String.singleton c ++ String.ofList cs := by
      rw [String.singleton_eq_ofList, ← String.ofList_append]
      rfl
    rw [utf8Size, ih, hsplit, String.utf8ByteSize_append, String.utf8ByteSize_singleton]

/-- The text from the byte `offset` on, if that is in the text or at its end and not within a
character. -/
def sliceFrom? (text : String) (offset : Nat) : Option String :=
  if h : String.Pos.Raw.IsValid text ⟨offset⟩ then
    some (text.sliceFrom (text.pos ⟨offset⟩ h)).copy
  else none

theorem sliceFrom?_append (s t : String) : sliceFrom? (s ++ t) s.utf8ByteSize = some t := by
  have hvalid : String.Pos.Raw.IsValid (s ++ t) ⟨s.utf8ByteSize⟩ :=
    String.Pos.Raw.isValid_iff_exists_append.2 ⟨s, t, rfl, rfl⟩
  rw [sliceFrom?, dif_pos hvalid, Option.some.injEq, ← String.toByteArray_inj,
    String.Slice.toByteArray_copy]
  exact ByteArray.extract_append_eq_right (by simp) (by simp)

namespace DecodedReader

variable {r r' : DecodedReader L} {pending : List Char} {n : Nat}

/-! ## Reads that take slices -/

/-- The text of the last chunk. -/
def chunk (r : DecodedReader L) : String := String.ofList r.text

/-- Hands out at most `n` characters of the slice that begins at the offset. -/
def handOut? (n : Nat) (r : DecodedReader L) : Option (List Char × DecodedReader L) :=
  (sliceFrom? r.chunk r.offset).map fun rest => r.handOut n rest.toList

/-- A read that compares the offset with the size of the text, and takes a slice from the offset on.
It gives no result if there is no such slice. -/
def read? (n : Nat) (r : DecodedReader L) :
    Option (Except ByteFault (List Char) × DecodedReader L) :=
  if n = 0 then some (.ok [], r)
  else if r.offset < r.chunk.utf8ByteSize then (r.handOut? n).map (Prod.map .ok id)
  else
    match r.refill with
    | (.error f, r) => some (.error f, r)
    | (.ok false, r) => some (.ok [], r)
    | (.ok true, r) => (r.handOut? n).map (Prod.map .ok id)

/-- What is pending, if the offset is not larger than the text. -/
def pending? (r : DecodedReader L) : Option Nat :=
  if r.offset ≤ r.chunk.utf8ByteSize then some (r.chunk.utf8ByteSize - r.offset) else none

/-! ## The invariant -/

/-- The offset is where a character begins or the text ends if and only if it is the size of a front
of the text, and the rest is pending. -/
theorem stores_iff_isValid :
    (∃ pending, r.Stores pending) ↔ String.Pos.Raw.IsValid r.chunk ⟨r.offset⟩ := by
  rw [chunk, String.Pos.Raw.isValid_ofList]
  constructor
  · rintro ⟨pending, front, htext, hoffset⟩
    refine ⟨front.length, ?_⟩
    rw [htext, List.take_left, ← utf8Size_eq]
    exact hoffset
  · rintro ⟨i, hi⟩
    refine ⟨r.text.drop i, r.text.take i, (List.take_append_drop i r.text).symm, ?_⟩
    rw [utf8Size_eq]
    exact hi

theorem Stores.size (h : r.Stores pending) :
    r.chunk.utf8ByteSize = r.offset + utf8Size pending := by
  obtain ⟨front, htext, hoffset⟩ := h
  rw [chunk, ← utf8Size_eq, htext, utf8Size_append, hoffset]

theorem Stores.pending_eq (h : r.Stores pending) : r.pending = utf8Size pending := by
  rw [DecodedReader.pending, utf8Size_eq, ← chunk, h.size, Nat.add_sub_cancel_left]

theorem Stores.pending? (h : r.Stores pending) : r.pending? = some r.pending := by
  have hle : r.offset ≤ r.chunk.utf8ByteSize := by
    rw [h.size]
    exact Nat.le_add_right _ _
  rw [DecodedReader.pending?, if_pos hle, DecodedReader.pending, utf8Size_eq]
  rfl

theorem Stores.offset_lt_iff (h : r.Stores pending) :
    r.offset < r.chunk.utf8ByteSize ↔ pending ≠ [] := by
  rw [h.size]
  cases pending with
  | nil => simp [utf8Size]
  | cons c cs =>
    have hpos := Char.utf8Size_pos c
    simp only [utf8Size, ne_eq, reduceCtorEq, not_false_eq_true, iff_true]
    omega

theorem Stores.slice (h : r.Stores pending) :
    sliceFrom? r.chunk r.offset = some (String.ofList pending) := by
  obtain ⟨front, htext, hoffset⟩ := h
  rw [chunk, htext, String.ofList_append, hoffset, utf8Size_eq]
  exact sliceFrom?_append _ _

theorem Stores.handOut? (h : r.Stores pending) (n : Nat) :
    r.handOut? n = some (r.handOut n pending) := by
  rw [DecodedReader.handOut?, h.slice, Option.map_some, String.toList_ofList]

/-- **A read that takes slices** always gives a result, and it is that of the read. -/
theorem Stores.read? (h : r.Stores pending) (n : Nat) : r.read? n = some (r.read n) := by
  by_cases hn : n = 0
  · rw [DecodedReader.read?, if_pos hn, DecodedReader.read, if_pos hn]
  have hpos : 0 < n := Nat.pos_of_ne_zero hn
  rw [DecodedReader.read?, if_neg hn]
  cases pending with
  | cons c cs =>
    rw [if_pos (h.offset_lt_iff.2 (List.cons_ne_nil c cs)), h.handOut?,
      read_of_unread hpos h.unread]
    rfl
  | nil =>
    rw [if_neg fun hlt => h.offset_lt_iff.1 hlt rfl]
    rcases hrefill : r.refill with ⟨x, r'⟩
    rw [read_of_refill hpos h.unread hrefill]
    obtain ⟨pending', h'⟩ := refill_stores h hrefill
    rcases x with f | _ | _
    · rfl
    · rfl
    · dsimp only
      rw [h'.handOut?, h'.unread]
      rfl

theorem Stores.read_of_no_fetch (h : r.Stores pending)
    (hno : n = 0 ∨ r.offset < r.chunk.utf8ByteSize ∨ r.finished = true) :
    r.read n = (.ok (pending.take n), (r.handOut n pending).2) := by
  by_cases hn : n = 0
  · subst hn
    rfl
  have hpos : 0 < n := Nat.pos_of_ne_zero hn
  cases pending with
  | cons c cs => exact read_of_unread hpos h.unread
  | nil =>
    have hfin : r.finished = true := by
      rcases hno with hzero | hlt | hfin
      · exact absurd hzero hn
      · exact absurd rfl (h.offset_lt_iff.1 hlt)
      · exact hfin
    rw [read_of_finished hfin h, DecodedReader.handOut, List.take_nil]
    rfl

end DecodedReader

/-! ## What has been decoded -/

/-- The library whose decoders keep what they have decoded. -/
def EncodingLibrary.logged (L : EncodingLibrary) : EncodingLibrary :=
  { L with
    Decoder := List Char × L.Decoder
    newDecoder := fun encoding => ([], L.newDecoder encoding)
    inForce := fun d => L.inForce d.2
    roomFor := fun n d => L.roomFor n d.2
    decode := fun bytes last room d =>
      let (cs, next) := L.decode bytes last room d.2
      (cs, d.1 ++ cs, next) }

namespace DecodedReader

/-- The reader whose decoder does not keep what it has decoded. -/
def forget (r : DecodedReader L.logged) : DecodedReader L :=
  { script := r.script, decoder := r.decoder.2, text := r.text, offset := r.offset,
    finished := r.finished }

theorem decodeChunk_forget (bytes : List UInt8) (r : DecodedReader L.logged) :
    r.forget.decodeChunk bytes = (r.decodeChunk bytes).map id forget := by
  unfold decodeChunk
  rw [show L.logged.roomFor bytes.length r.decoder
    = L.roomFor bytes.length r.forget.decoder from rfl]
  cases L.roomFor bytes.length r.forget.decoder <;> rfl

theorem refill_forget (r : DecodedReader L.logged) :
    r.forget.refill = r.refill.map id forget := by
  -- After the same chunk the readers correspond again.
  have hchunk {bytes : List UInt8} {script : ByteScript} {x : Except ByteFault Unit}
      {r r₁ : DecodedReader L.logged} (h : decodeChunk bytes { r with script } = (x, r₁)) :
      decodeChunk bytes { r.forget with script } = (x, r₁.forget) := by
    rw [show { r.forget with script } = forget { r with script } from rfl, decodeChunk_forget, h]
    rfl
  fun_induction refill r with
  | case1 r hfin => exact refill_of_finished (r := r.forget) hfin
  | case2 r hfin f script hread hint ih =>
    exact (refill_of_error (r := r.forget) hfin hread).trans ((if_pos hint).trans ih)
  | case3 r hfin f script hread hint =>
    exact (refill_of_error (r := r.forget) hfin hread).trans (if_neg hint)
  | case4 r hfin bytes script hread f r₁ h =>
    exact refill_of_chunk (r := r.forget) hfin hread (hchunk h)
  | case5 r hfin bytes script hread r₁ h hempty ih =>
    exact (refill_of_chunk (r := r.forget) hfin hread (hchunk h)).trans ((if_pos hempty).trans ih)
  | case6 r hfin bytes script hread r₁ h hne =>
    exact (refill_of_chunk (r := r.forget) hfin hread (hchunk h)).trans (if_neg hne)

theorem read_forget (n : Nat) (r : DecodedReader L.logged) :
    r.forget.read n = (r.read n).map id forget := by
  by_cases hn : n = 0
  · subst hn
    rfl
  have hn := Nat.pos_of_ne_zero hn
  cases hunread : r.unread with
  | cons c cs =>
    rw [read_of_unread hn hunread, read_of_unread (r := r.forget) hn hunread]
    rfl
  | nil =>
    rcases hrefill : r.refill with ⟨x, r'⟩
    have hforget := refill_forget r
    rw [hrefill] at hforget
    rw [read_of_refill hn hunread hrefill, read_of_refill (r := r.forget) hn hunread hforget]
    rcases x with f | _ | _ <;> rfl

/-- To keep what is decoded makes no difference to a call. -/
theorem run_forget (pull : Pull) (r : DecodedReader L.logged) :
    pull.run r.forget = (pull.run r).map id forget := by
  have hread (n : Nat) (r : DecodedReader L.logged) :
      Reader.read n r.forget = (Reader.read n r).map id forget := read_forget n r
  exact Pull.run_map hread (readOne_map hread) (fun n => skipFrom_map hread n 0) pull r

/-! ## What becomes of it -/

/-- `taken` and then what is pending is what the decoder has decoded so far. -/
def Holds (r : DecodedReader L.logged) (taken : List Char) : Prop :=
  (∃ pending, r.Stores pending) ∧ r.decoder.1 = taken ++ r.unread

variable {r r' : DecodedReader L.logged} {taken : List Char}

theorem Holds.handOut (h : r.Holds taken) (n : Nat) :
    (r.handOut n r.unread).2.Holds (taken ++ (r.handOut n r.unread).1) := by
  obtain ⟨⟨pending, hstores⟩, hdecoded⟩ := h
  rw [hstores.unread] at hdecoded ⊢
  obtain ⟨hcs, hstores'⟩ := hstores.handOut n
  refine ⟨⟨_, hstores'⟩, ?_⟩
  rw [hstores'.unread, hcs, List.append_assoc, List.take_append_drop]
  exact hdecoded

/-- A chunk adds its text, or nothing where there was no room for it. -/
theorem Holds.decodeChunk {bytes : List UInt8} {script : ByteScript} {x : Except ByteFault Unit}
    (h : r.Holds taken) (hunread : r.unread = [])
    (hchunk : DecodedReader.decodeChunk bytes { r with script } = (x, r')) : r'.Holds taken := by
  have hstores := decodeChunk_stores hchunk
  have htaken : r.decoder.1 = taken := by rw [h.2, hunread, List.append_nil]
  refine ⟨⟨_, hstores⟩, ?_⟩
  rw [hstores.unread, ← htaken]
  unfold DecodedReader.decodeChunk at hchunk
  split at hchunk
  · cases hchunk
    exact (List.append_nil _).symm
  · cases hchunk
    rfl

theorem Holds.refill {x : Except ByteFault Bool} (h : r.Holds taken) (hunread : r.unread = [])
    (hrefill : r.refill = (x, r')) : r'.Holds taken := by
  fun_induction DecodedReader.refill r with
  | case1 r hfin =>
    cases hrefill
    exact h
  | case2 r hfin f script hread hint ih => exact ih h hunread hrefill
  | case3 r hfin f script hread hint =>
    cases hrefill
    exact h
  | case4 r hfin bytes script hread f r₁ hchunk =>
    cases hrefill
    exact h.decodeChunk hunread hchunk
  | case5 r hfin bytes script hread r₁ hchunk hempty ih =>
    refine ih (h.decodeChunk hunread hchunk) ?_ hrefill
    rw [(decodeChunk_stores hchunk).unread]
    exact List.isEmpty_iff.1 hempty
  | case6 r hfin bytes script hread r₁ hchunk hne =>
    cases hrefill
    exact h.decodeChunk hunread hchunk

/-- **A read** hands out from the front of what is pending, before or after it adds to it. -/
theorem Holds.read {n : Nat} {x : Except ByteFault (List Char)} (h : r.Holds taken)
    (hread : r.read n = (x, r')) : r'.Holds (taken ++ delivered [x]) := by
  by_cases hn : n = 0
  · subst hn
    cases hread
    rwa [show delivered [Except.ok (ε := ByteFault) []] = [] from rfl, List.append_nil]
  have hn := Nat.pos_of_ne_zero hn
  cases hunread : r.unread with
  | cons c cs =>
    rw [read_of_unread hn hunread, ← hunread] at hread
    cases hread
    simpa [delivered] using h.handOut n
  | nil =>
    rcases hrefill : r.refill with ⟨y, r₁⟩
    have h₁ := h.refill hunread hrefill
    rw [read_of_refill hn hunread hrefill] at hread
    rcases y with f | _ | _
    · cases hread
      simpa [delivered] using h₁
    · cases hread
      simpa [delivered] using h₁
    · cases hread
      simpa [delivered] using h₁.handOut n

/-- What has been decoded is what the answers on record handed out and what is pending. -/
def Accounted (r : Recorder (DecodedReader L.logged) ByteFault) : Prop :=
  r.inner.Holds (delivered r.log)

theorem Accounted.read {r : Recorder (DecodedReader L.logged) ByteFault} (h : Accounted r)
    (n : Nat) : Accounted (Reader.read n r).2 := by
  rcases hread : Reader.read n r with ⟨x, r'⟩
  by_cases hn : n = 0
  · subst hn
    cases hread
    exact h
  · have hinner : r.inner.read n = (x, r'.inner) := Recorder.read_inner hread
    rw [Accounted, Recorder.log_read (Nat.pos_of_ne_zero hn) hread, delivered_append]
    exact Holds.read h hinner

theorem Accounted.pull {r : Recorder (DecodedReader L.logged) ByteFault} (h : Accounted r)
    (pull : Pull) : Accounted (pull.run r).2 := by
  cases pull with
  | read n => exact h.read n
  | readChar => exact readOne_keeps (P := Accounted) (fun n r h => h.read n) h
  | skip n => exact skipFrom_keeps (P := Accounted) (fun n r h => h.read n) n 0 h

/-- **Any calls** leave all that has been decoded accounted for. -/
theorem Accounted.pulls {r : Recorder (DecodedReader L.logged) ByteFault} (h : Accounted r)
    (pulls : List Pull) : Accounted (afterPulls pulls r) := by
  induction pulls generalizing r with
  | nil => exact h
  | cons pull pulls ih => exact ih (h.pull pull)

end DecodedReader

open DecodedReader in
/-- **The offset is always where a character begins or the text ends**, whatever the script brings,
however it fails, and whatever the decoder does. So the slice from there on is always there. Pending
are the bytes of what was decoded and not handed out, and a read that does not fetch lowers them by
those of the characters that it hands out. -/
theorem decodedReader_offset (script : ByteScript) (encoding : L.Encoding) (pulls : List Pull) :
    let recorded : Recorder (DecodedReader L.logged) ByteFault :=
      afterPulls pulls { inner := DecodedReader.ofEncoding script encoding }
    let r : DecodedReader L := afterPulls pulls (DecodedReader.ofEncoding script encoding)
    (r.offset ≤ r.chunk.utf8ByteSize ∧ String.Pos.Raw.IsValid r.chunk ⟨r.offset⟩) ∧
      (sliceFrom? r.chunk r.offset = some (String.ofList r.unread) ∧
        (∀ n, r.read? n = some (r.read n)) ∧ r.pending? = some r.pending) ∧
      (recorded.inner.forget = r ∧
        recorded.inner.decoder.1 = delivered recorded.log ++ r.unread ∧
        r.pending = (String.ofList r.unread).utf8ByteSize) ∧
      ∀ n cs r', r.read n = (.ok cs, r') →
        n = 0 ∨ r.offset < r.chunk.utf8ByteSize ∨ r.finished = true →
        r.unread = cs ++ r'.unread ∧ r'.pending + (String.ofList cs).utf8ByteSize = r.pending := by
  intro recorded r
  have hforget : recorded.inner.forget = r := by
    rw [← afterPulls_recorded]
    exact (afterPulls_map run_forget pulls (DecodedReader.ofEncoding script encoding)).symm
  have hstart : Accounted (L := L) { inner := DecodedReader.ofEncoding script encoding } :=
    ⟨⟨[], [], rfl, rfl⟩, rfl⟩
  obtain ⟨⟨pending, hstored⟩, hdecoded⟩ : Accounted recorded := hstart.pulls pulls
  have hstores : r.Stores pending := hforget ▸ hstored
  have hunread : r.unread = pending := hstores.unread
  have hvalid : String.Pos.Raw.IsValid r.chunk ⟨r.offset⟩ := stores_iff_isValid.1 ⟨pending, hstores⟩
  refine ⟨⟨String.Pos.Raw.le_iff.1 hvalid.le_rawEndPos, hvalid⟩,
    ⟨?_, hstores.read?, hstores.pending?⟩, ⟨hforget, ?_, ?_⟩, ?_⟩
  · rw [hunread]
    exact hstores.slice
  · rw [hdecoded, hunread, hstored.unread]
  · rw [hunread, ← utf8Size_eq]
    exact hstores.pending_eq
  · intro n cs r' hread hno
    obtain ⟨hcs, rfl⟩ := Prod.mk.inj (hread.symm.trans (hstores.read_of_no_fetch hno))
    obtain rfl := Except.ok.inj hcs
    obtain ⟨-, hstores'⟩ := hstores.handOut n
    rw [hunread, hstores'.unread, hstores'.pending_eq, hstores.pending_eq, ← utf8Size_eq,
      Nat.add_comm, ← utf8Size_append, List.take_append_drop]
    exact ⟨rfl, rfl⟩

open DecodedReader in
/-- A character that is cut by a fault, and then two of other sizes in one text, of which the first
is handed out. -/
theorem decodedReader_offset_cut :
    let script : ByteScript := [.bytes [0x61, 0xC3], .fault ⟨.wouldBlock, "later"⟩,
      .bytes [0xA9, 0xF0, 0x9F, 0x98, 0x80, 0xE2]]
    let pulls : List Pull := [.read 5, .skip 1, .readChar]
    let start : DecodedReader .own := .ofEncoding script .utf8
    let r := afterPulls pulls start
    (r.chunk = "é😀" ∧ String.Pos.Raw.IsValid r.chunk ⟨2⟩ ∧ sliceFrom? r.chunk 3 = none) ∧
      (r.read 3).1 = .ok ['😀'] ∧ r.read? 3 = some (r.read 3) ∧
      r.pending? = some 4 ∧ (r.read 3).2.pending = 0 := by
  intro script pulls start r
  have hoffset : r.offset = 2 := by decide +kernel
  have hpending : r.pending = 4 := by decide +kernel
  have hread : (r.read 3).1 = .ok ['😀'] := by decide +kernel
  obtain ⟨⟨-, hvalid⟩, ⟨-, hslices, hdifference⟩, -, hlowered⟩ :=
    decodedReader_offset (L := .own) script .utf8 pulls
  have hcut : ¬ String.Pos.Raw.IsValid r.chunk ⟨3⟩ := by decide +kernel
  refine ⟨⟨by decide +kernel, hoffset ▸ hvalid, dif_neg hcut⟩, hread, hslices 3, ?_, ?_⟩
  · rw [← hpending]
    exact hdifference
  · have hsum := (hlowered 3 _ _ (Prod.ext hread rfl) (.inr (.inl (by decide +kernel)))).2
    rw [show afterPulls pulls (ofEncoding script _) = r from rfl,
      show r.pending = 0 + (String.ofList ['😀']).utf8ByteSize from hpending] at hsum
    exact Nat.add_right_cancel hsum

end CharStream
