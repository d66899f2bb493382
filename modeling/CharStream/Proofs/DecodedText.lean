import CharStream.DecodedReader
import CharStream.Proofs.Delivers
import CharStream.Proofs.EncodingLibrary

/-!
# The text of a byte stream

A decoded reader hands out what its bytes decode to, and how the bytes were cut makes no difference.
`contents` says what a script of reads amounts to: the bytes before the stream ends or fails, and
the fault if it fails. Interruptions are of no account. `text` is what these bytes decode to; where
the stream ends the decoder is flushed, and where it fails it is not. `bytes` are those that come to
light if every fault is passed over, and `due` is the text that they are good for.

All this is over any library that decodes piece by piece what it decodes at once, in the room that
it asks for.

* `ByteScript.contents_append` — pieces and interruptions bring their bytes, however they are cut.
* `ahead_of_chunk` — decoding a chunk takes its text from the front of all that lies ahead.
* `refill_cases` — fetching takes the next characters from the text, or finds it at its end; where
  it fails, what is due stays due.
* `DecodedReader.delivers` — the reader delivers the text, and then ends or fails with the stream.
-/

namespace CharStream

variable {L : EncodingLibrary}

/-! ## What a script amounts to -/

namespace ByteItem

/-- The item is no end: it brings bytes, or it is an interruption. -/
def GoesOn : ByteItem → Prop
  | .bytes piece => piece ≠ []
  | .fault f => f.kind = .interrupted

/-- The bytes that an item brings. -/
def payload : ByteItem → List UInt8
  | .bytes piece => piece
  | .fault _ => []

end ByteItem

namespace ByteScript

/-- The bytes before the stream ends or fails, and the fault if it fails. -/
def contents : ByteScript → List UInt8 × Option ByteFault
  | [] => ([], none)
  | .fault f :: items => if f.kind = .interrupted then contents items else ([], some f)
  | .bytes [] :: _ => ([], none)
  | .bytes (b :: bs) :: items => (b :: bs ++ (contents items).1, (contents items).2)

/-- The bytes before the stream ends, whatever faults come between them. -/
def bytes : ByteScript → List UInt8
  | [] => []
  | .fault _ :: items => bytes items
  | .bytes [] :: _ => []
  | .bytes (b :: bs) :: items => b :: bs ++ bytes items

/-- What the bytes decode to, as far as they come. -/
def text (script : ByteScript) (d : L.Decoder) : List Char :=
  match script.contents with
  | (bs, none) => L.decodeAll d bs
  | (bs, some _) => (L.feed d bs).1

/-- A read brings nothing, now or because nothing is left. -/
def AtEnd (script : ByteScript) : Prop := script = [] ∨ ∃ later, script = .bytes [] :: later

variable {n : Nat} {script rest : ByteScript}

theorem AtEnd.contents (h : script.AtEnd) : script.contents = ([], none) := by
  rcases h with rfl | ⟨later, rfl⟩
  · rfl
  · rfl

/-- Cutting the bytes into pieces and interrupting the reads between them changes nothing. -/
theorem contents_append (h : ∀ item ∈ script, item.GoesOn) (rest : ByteScript) :
    (script ++ rest).contents
      = (script.flatMap ByteItem.payload ++ rest.contents.1, rest.contents.2) := by
  induction script with
  | nil => rfl
  | cons item script ih =>
    have hscript := ih fun item hmem => h item (List.mem_cons_of_mem _ hmem)
    have hitem := h item List.mem_cons_self
    rw [List.cons_append, List.flatMap_cons]
    cases item with
    | fault f =>
      have hkind : f.kind = .interrupted := hitem
      rw [contents, if_pos hkind, hscript]
      rfl
    | bytes piece =>
      obtain ⟨b, bs, rfl⟩ := List.exists_cons_of_ne_nil hitem
      rw [contents, hscript, ← List.append_assoc]
      rfl

theorem contents_to_end (h : ∀ item ∈ script, item.GoesOn) (hrest : rest.AtEnd) :
    (script ++ rest).contents = (script.flatMap ByteItem.payload, none) := by
  rw [contents_append h, hrest.contents, List.append_nil]

theorem contents_to_fault (h : ∀ item ∈ script, item.GoesOn) {f : ByteFault}
    (hf : f.kind ≠ .interrupted) (rest : ByteScript) :
    (script ++ .fault f :: rest).contents = (script.flatMap ByteItem.payload, some f) := by
  rw [contents_append h, contents, if_neg hf, List.append_nil]

theorem text_to_end {bs : List UInt8} (h : script.contents = (bs, none)) (d : L.Decoder) :
    script.text d = L.decodeAll d bs := by
  rw [text, h]

theorem text_to_fault {bs : List UInt8} {f : ByteFault} (h : script.contents = (bs, some f))
    (d : L.Decoder) : script.text d = (L.feed d bs).1 := by
  rw [text, h]

theorem bytes_eq_contents (h : script.contents.2 = none) : script.bytes = script.contents.1 := by
  fun_induction contents script with
  | case1 => rfl
  | case2 f items hkind ih => exact ih h
  | case3 f items hkind => cases h
  | case4 => rfl
  | case5 b bs items ih => rw [bytes, ih h]

/-! ## Reads of a script -/

theorem read_error_inv {f : ByteFault} (h : read n script = (.error f, rest)) :
    script = .fault f :: rest := by
  match script with
  | [] => cases h
  | .fault g :: items =>
    cases h
    rfl
  | .bytes piece :: items =>
    rw [read] at h
    split at h <;> cases h

theorem read_nil_inv (hn : 0 < n) (h : read n script = (.ok [], rest)) : script.AtEnd := by
  match script with
  | [] => exact .inl rfl
  | .fault g :: items => cases h
  | .bytes [] :: items => exact .inr ⟨items, rfl⟩
  | .bytes (b :: bs) :: items =>
    obtain ⟨n, rfl⟩ := Nat.exists_eq_succ_of_ne_zero (Nat.ne_of_gt hn)
    rw [read] at h
    split at h <;> cases h

/-- A piece is gone, or it is longer than the read, which leaves a piece of it. -/
theorem read_cons_inv {b : UInt8} {bs : List UInt8} (h : read n script = (.ok (b :: bs), rest)) :
    script = .bytes (b :: bs) :: rest ∨ ∃ c cs items,
      script = .bytes (b :: bs ++ c :: cs) :: items ∧ rest = .bytes (c :: cs) :: items := by
  match script with
  | [] => cases h
  | .fault g :: items => cases h
  | .bytes piece :: items =>
    have hsplit := List.take_append_drop n piece
    rw [read] at h
    split at h
    · next hdrop =>
      obtain ⟨htake, rfl⟩ := Prod.mk.inj h
      rw [hdrop, List.append_nil, Except.ok.inj htake] at hsplit
      exact .inl (by rw [hsplit])
    · next hdrop =>
      obtain ⟨htake, rfl⟩ := Prod.mk.inj h
      obtain ⟨c, cs, hrest⟩ := List.exists_cons_of_ne_nil hdrop
      rw [Except.ok.inj htake, hrest] at hsplit
      exact .inr ⟨c, cs, items, by rw [hsplit], by rw [hrest]⟩

theorem contents_of_read_error {f : ByteFault} (h : read n script = (.error f, rest)) :
    script.contents = if f.kind = .interrupted then rest.contents else ([], some f) := by
  rw [read_error_inv h, contents]

theorem contents_of_read_nil (hn : 0 < n) (h : read n script = (.ok [], rest)) :
    script.contents = ([], none) :=
  (read_nil_inv hn h).contents

/-- A piece longer than the read counts as the two pieces that the read makes of it. -/
theorem contents_of_read_cons {b : UInt8} {bs : List UInt8}
    (h : read n script = (.ok (b :: bs), rest)) :
    script.contents = (b :: bs ++ rest.contents.1, rest.contents.2) := by
  rcases read_cons_inv h with rfl | ⟨c, cs, items, rfl, rfl⟩
  · rfl
  · simp [contents]

theorem bytes_of_read_error {f : ByteFault} (h : read n script = (.error f, rest)) :
    script.bytes = rest.bytes := by
  rw [read_error_inv h, bytes]

theorem bytes_of_read_cons {b : UInt8} {bs : List UInt8}
    (h : read n script = (.ok (b :: bs), rest)) : script.bytes = b :: bs ++ rest.bytes := by
  rcases read_cons_inv h with rfl | ⟨c, cs, items, rfl, rfl⟩
  · rfl
  · simp [bytes]

theorem text_of_read_nil (hn : 0 < n) (h : read n script = (.ok [], rest)) (d : L.Decoder) :
    script.text d = L.decodeAll d [] := by
  rw [text, contents_of_read_nil hn h]

theorem text_of_read_cons (hL : L.Streams) {b : UInt8} {bs : List UInt8}
    (h : read n script = (.ok (b :: bs), rest)) (d : L.Decoder) :
    script.text d = (L.feed d (b :: bs)).1 ++ rest.text (L.feed d (b :: bs)).2 := by
  rw [text, text, contents_of_read_cons h]
  rcases rest.contents with ⟨cs, _ | f⟩
  · exact hL.decodeAll_append d _ _
  · simp only [hL.feed_append]

end ByteScript

/-! ## What is pending -/

theorem dropBytes_zero (cs : List Char) : dropBytes 0 cs = cs := by
  cases cs <;> rfl

theorem dropBytes_utf8Size (front rest : List Char) :
    dropBytes (utf8Size front) (front ++ rest) = rest := by
  induction front with
  | nil => exact dropBytes_zero rest
  | cons c front ih =>
    have hpos := Char.utf8Size_pos c
    obtain ⟨k, hk⟩ : ∃ k, utf8Size (c :: front) = k + 1 :=
      Nat.exists_eq_succ_of_ne_zero (by simp only [utf8Size]; omega)
    rw [hk, List.cons_append, dropBytes, ← hk, utf8Size, Nat.add_sub_cancel_left]
    exact ih

theorem utf8Size_append (cs ds : List Char) : utf8Size (cs ++ ds) = utf8Size cs + utf8Size ds := by
  induction cs with
  | nil => simp [utf8Size]
  | cons c cs ih => simp only [List.cons_append, utf8Size, ih, Nat.add_assoc]

namespace DecodedReader

/-- The text that is still to be fetched. -/
def later (r : DecodedReader L) : List Char := if r.finished then [] else r.script.text r.decoder

/-- The text that is still to be fetched if all faults on the way are passed over. -/
def due (r : DecodedReader L) : List Char :=
  if r.finished then [] else L.decodeAll r.decoder r.script.bytes

/-- The fault that the stream runs into. -/
def stop (r : DecodedReader L) : Option ByteFault :=
  if r.finished then none else r.script.contents.2

/-- The reader has `pending` in store: what it has handed out of its text is the rest of it. -/
def Stores (r : DecodedReader L) (pending : List Char) : Prop :=
  ∃ front, r.text = front ++ pending ∧ r.offset = utf8Size front

variable {r r' : DecodedReader L} {pending : List Char}

theorem Stores.unread (h : r.Stores pending) : r.unread = pending := by
  obtain ⟨front, htext, hoffset⟩ := h
  rw [DecodedReader.unread, htext, hoffset, dropBytes_utf8Size]

theorem Stores.handOut (h : r.Stores pending) (n : Nat) :
    (r.handOut n pending).1 = pending.take n ∧ (r.handOut n pending).2.Stores (pending.drop n) := by
  obtain ⟨front, htext, hoffset⟩ := h
  refine ⟨rfl, front ++ pending.take n, ?_, ?_⟩
  · show r.text = _
    rw [htext, List.append_assoc, List.take_append_drop]
  · show r.offset + utf8Size (pending.take n) = _
    rw [hoffset, utf8Size_append]

theorem later_eq (h : ¬ r.finished) : r.later = r.script.text r.decoder := if_neg h

theorem due_eq (h : ¬ r.finished) : r.due = L.decodeAll r.decoder r.script.bytes := if_neg h

theorem stop_eq (h : ¬ r.finished) : r.stop = r.script.contents.2 := if_neg h

theorem due_eq_later (h : r.stop = none) : r.due = r.later := by
  by_cases hfin : r.finished
  · rw [due, later, if_pos hfin, if_pos hfin]
  · rw [stop_eq hfin] at h
    rw [due_eq hfin, later_eq hfin, ByteScript.bytes_eq_contents h, ByteScript.text]
    rcases hcontents : r.script.contents with ⟨bs, _ | f⟩
    · rfl
    · rw [hcontents] at h
      cases h

/-- What lies ahead of `r` is `cs`, and then what lies ahead of `r'`. -/
structure Ahead (r : DecodedReader L) (cs : List Char) (r' : DecodedReader L) : Prop where
  later : r.later = cs ++ r'.later
  stop : r'.stop = r.stop
  due : r.due = cs ++ r'.due

theorem ahead_handOut (n : Nat) (cs : List Char) (r : DecodedReader L) :
    r.Ahead [] (r.handOut n cs).2 := ⟨rfl, rfl, rfl⟩

/-! ## Fetching -/

theorem refill_of_finished (hfin : r.finished) : r.refill = (.ok false, r) := by
  rw [refill, if_pos hfin]

theorem refill_of_error {f : ByteFault} {script : ByteScript} (hfin : ¬ r.finished)
    (hread : r.script.read chunkSize = (.error f, script)) :
    r.refill = if f.kind = .interrupted then refill { r with script }
      else (.error f, { r with script }) := by
  rw [refill, if_neg hfin]
  split
  · next hread' =>
    obtain ⟨⟩ := hread.symm.trans hread'
    rfl
  · next hread' => cases hread.symm.trans hread'

theorem refill_of_chunk {bytes : List UInt8} {script : ByteScript} {x : Except ByteFault Unit}
    {r₁ : DecodedReader L} (hfin : ¬ r.finished)
    (hread : r.script.read chunkSize = (.ok bytes, script))
    (hchunk : decodeChunk bytes { r with script } = (x, r₁)) :
    r.refill = match x with
      | .error f => (.error f, r₁)
      | .ok () => if r₁.text.isEmpty then r₁.refill else (.ok true, r₁) := by
  rw [refill, if_neg hfin]
  split
  · next hread' => cases hread.symm.trans hread'
  · next hread' =>
    obtain ⟨⟩ := hread.symm.trans hread'
    split
    · next hchunk' =>
      obtain ⟨⟩ := hchunk.symm.trans hchunk'
      rfl
    · next hchunk' =>
      obtain ⟨⟩ := hchunk.symm.trans hchunk'
      rfl

theorem decodeChunk_stores {bytes : List UInt8} {x : Except ByteFault Unit}
    (h : r.decodeChunk bytes = (x, r')) : r'.Stores r'.text := by
  unfold decodeChunk at h
  split at h
  · cases h
    exact ⟨[], rfl, rfl⟩
  · cases h
    exact ⟨[], rfl, rfl⟩

/-- Whatever becomes of a fetch, the offset is right for the text that it leaves. -/
theorem refill_stores {x : Except ByteFault Bool} (hr : r.Stores []) (h : r.refill = (x, r')) :
    ∃ pending, r'.Stores pending := by
  fun_induction refill r with
  | case1 r hfin =>
    cases h
    exact ⟨[], hr⟩
  | case2 r hfin f script hread hint ih => exact ih hr h
  | case3 r hfin f script hread hint =>
    cases h
    exact ⟨[], hr⟩
  | case4 r hfin bytes script hread f r₁ hchunk =>
    cases h
    exact ⟨_, decodeChunk_stores hchunk⟩
  | case5 r hfin bytes script hread r₁ hchunk hempty ih =>
    have hstores := decodeChunk_stores hchunk
    rw [List.isEmpty_iff.1 hempty] at hstores
    exact ih hstores h
  | case6 r hfin bytes script hread r₁ hchunk hne =>
    cases h
    exact ⟨_, decodeChunk_stores hchunk⟩

section Laws

variable (hL : L.Streams) (hroom : L.Suffices chunkSize)

include hroom in
theorem decodeChunk_eq {bytes : List UInt8} (h : bytes.length ≤ chunkSize) (r : DecodedReader L) :
    r.decodeChunk bytes = (.ok (), { r with
      decoder := (L.decode bytes bytes.isEmpty none r.decoder).2
      text := (L.decode bytes bytes.isEmpty none r.decoder).1
      offset := 0
      finished := bytes.isEmpty }) := by
  obtain ⟨room, hasked, hdecode⟩ := hroom bytes h bytes.isEmpty r.decoder
  rw [decodeChunk, hasked]
  simp only [hdecode]

include hL hroom

/-- **Decoding a chunk** takes its text from the front of what lies ahead. -/
theorem ahead_of_chunk {n : Nat} (hn : 0 < n) (hle : n ≤ chunkSize) {bytes : List UInt8}
    {script : ByteScript} {x : Except ByteFault Unit} (hfin : ¬ r.finished)
    (hread : r.script.read n = (.ok bytes, script))
    (hchunk : decodeChunk bytes { r with script } = (x, r')) :
    x = .ok () ∧ r.Ahead r'.text r' := by
  have hlength := Nat.le_trans (ByteScript.length_read_le hread) hle
  rw [decodeChunk_eq hroom hlength] at hchunk
  cases hchunk
  refine ⟨rfl, ?_⟩
  cases bytes with
  | nil =>
    have hlater : r.later = L.decodeAll r.decoder [] :=
      (later_eq hfin).trans (ByteScript.text_of_read_nil hn hread r.decoder)
    have hstop : r.stop = none := by
      rw [stop_eq hfin, ByteScript.contents_of_read_nil hn hread]
    have hdue : r.due = L.decodeAll r.decoder [] := (due_eq_later hstop).trans hlater
    exact ⟨hlater.trans (List.append_nil _).symm, hstop.symm, hdue.trans (List.append_nil _).symm⟩
  | cons b bs =>
    refine ⟨?_, ?_, ?_⟩
    · rw [later_eq hfin, ByteScript.text_of_read_cons hL hread]
      rfl
    · rw [stop_eq hfin, ByteScript.contents_of_read_cons hread]
      rfl
    · rw [due_eq hfin, ByteScript.bytes_of_read_cons hread, hL.decodeAll_append]
      rfl

omit hL hroom in
theorem ahead_of_interrupted {n : Nat} {f : ByteFault} {script : ByteScript} (hfin : ¬ r.finished)
    (hread : r.script.read n = (.error f, script)) (hf : f.kind = .interrupted) :
    r.Ahead [] { r with script } := by
  have hcontents := ByteScript.contents_of_read_error hread
  rw [if_pos hf] at hcontents
  refine ⟨?_, ?_, ?_⟩
  · rw [later_eq hfin, later_eq (r := { r with script }) hfin, ByteScript.text, ByteScript.text,
      hcontents]
    rfl
  · rw [stop_eq hfin, stop_eq (r := { r with script }) hfin, hcontents]
  · rw [due_eq hfin, due_eq (r := { r with script }) hfin, ByteScript.bytes_of_read_error hread]
    rfl

/-- What fetching finds when nothing is pending: the fault of the stream, its end, or the next
characters of its text. A fault takes nothing of what is due. -/
inductive Refilled (r : DecodedReader L) : Except ByteFault Bool → DecodedReader L → Prop
  | failed {f : ByteFault} {r' : DecodedReader L} :
      r.later = [] → r.stop = some f → r'.Stores [] → r'.due = r.due → Refilled r (.error f) r'
  | ended {r' : DecodedReader L} :
      r.later = [] → r.stop = none → r'.later = [] → r'.stop = none → r'.Stores [] →
      Refilled r (.ok false) r'
  | text {r' : DecodedReader L} :
      r'.text ≠ [] → r'.Stores r'.text → r.Ahead r'.text r' → Refilled r (.ok true) r'

omit hL hroom in
theorem Refilled.congr {r₁ : DecodedReader L} {x : Except ByteFault Bool}
    (h : Refilled r₁ x r') (hahead : r.Ahead [] r₁) : Refilled r x r' := by
  obtain ⟨hlater, hstop, hdue⟩ := hahead
  rw [List.nil_append] at hlater hdue
  cases h with
  | failed h₁ h₂ h₃ h₄ => exact .failed (hlater.trans h₁) (hstop ▸ h₂) h₃ (h₄.trans hdue.symm)
  | ended h₁ h₂ h₃ h₄ h₅ => exact .ended (hlater.trans h₁) (hstop ▸ h₂) h₃ h₄ h₅
  | text h₁ h₂ h₃ =>
    exact .text h₁ h₂ ⟨hlater.trans h₃.later, h₃.stop.trans hstop, hdue.trans h₃.due⟩

theorem refill_cases {x : Except ByteFault Bool} (hr : r.Stores []) (h : r.refill = (x, r')) :
    Refilled r x r' := by
  fun_induction refill r with
  | case1 r hfin =>
    cases h
    exact .ended (if_pos hfin) (if_pos hfin) (if_pos hfin) (if_pos hfin) hr
  | case2 r hfin f script hread hint ih =>
    exact (ih hr h).congr (ahead_of_interrupted hfin hread hint)
  | case3 r hfin f script hread hint =>
    cases h
    have hcontents := ByteScript.contents_of_read_error hread
    rw [if_neg hint] at hcontents
    refine .failed ?_ ?_ hr ?_
    · rw [later_eq hfin, ByteScript.text, hcontents]
      exact congrArg Prod.fst (hL.feed_nil _)
    · rw [stop_eq hfin, hcontents]
    · rw [due_eq hfin, due_eq (r := { r with script }) hfin, ByteScript.bytes_of_read_error hread]
  | case4 r hfin bytes script hread f r₁ hchunk =>
    cases (ahead_of_chunk hL hroom (by decide) (Nat.le_refl _) hfin hread hchunk).1
  | case5 r hfin bytes script hread r₁ hchunk hempty ih =>
    -- The bytes complete no character, and the text goes on where it was.
    obtain ⟨-, hahead⟩ := ahead_of_chunk hL hroom (by decide) (Nat.le_refl _) hfin hread hchunk
    have hstores := decodeChunk_stores hchunk
    rw [List.isEmpty_iff.1 hempty] at hahead hstores
    exact (ih hstores h).congr hahead
  | case6 r hfin bytes script hread r₁ hchunk hne =>
    cases h
    obtain ⟨-, hahead⟩ := ahead_of_chunk hL hroom (by decide) (Nat.le_refl _) hfin hread hchunk
    have hstores := decodeChunk_stores hchunk
    exact .text (fun htext => hne (List.isEmpty_iff.2 htext)) hstores hahead

end Laws

/-! ## Reading -/

/-- What a read of positive length brings where `pending` is in store: the next characters; nothing,
at the end of the stream; or a fault, which takes nothing of what is due. -/
inductive Brought (r : DecodedReader L) (pending : List Char) :
    Except ByteFault (List Char) → DecodedReader L → Prop
  | chars {c : Char} {cs rest : List Char} {r' : DecodedReader L} :
      r'.Stores rest → pending ++ r.later = c :: cs ++ (rest ++ r'.later) →
      pending ++ r.due = c :: cs ++ (rest ++ r'.due) → r'.stop = r.stop →
      Brought r pending (.ok (c :: cs)) r'
  | ended {r' : DecodedReader L} :
      pending = [] → r.later = [] → r.stop = none → r'.Stores [] → r'.later = [] →
      r'.stop = none → Brought r pending (.ok []) r'
  | failed {f : ByteFault} {r' : DecodedReader L} :
      pending = [] → r.later = [] → r.stop = some f → r'.Stores [] → r'.due = r.due →
      Brought r pending (.error f) r'

theorem Stores.handOut_cons {c : Char} {cs : List Char} {n : Nat} (hn : 0 < n)
    (h : r.Stores (c :: cs)) : ∃ d ds rest r', r.handOut n (c :: cs) = (d :: ds, r') ∧
      c :: cs = d :: ds ++ rest ∧ r'.Stores rest ∧ r.Ahead [] r' := by
  obtain ⟨n, rfl⟩ := Nat.exists_eq_succ_of_ne_zero (Nat.ne_of_gt hn)
  obtain ⟨hcs, hstores⟩ := h.handOut (n + 1)
  exact ⟨c, cs.take n, cs.drop n, _, Prod.ext hcs rfl, by simp, hstores, ahead_handOut _ _ _⟩

theorem read_of_unread {c : Char} {cs : List Char} {n : Nat} (hn : 0 < n)
    (h : r.unread = c :: cs) :
    r.read n = (.ok (r.handOut n (c :: cs)).1, (r.handOut n (c :: cs)).2) := by
  rw [DecodedReader.read, if_neg (Nat.ne_of_gt hn), h]

theorem read_of_refill {n : Nat} {x : Except ByteFault Bool} (hn : 0 < n)
    (h : r.unread = []) : r.refill = (x, r') →
    r.read n = match x with
      | .error f => (.error f, r')
      | .ok false => (.ok [], r')
      | .ok true => (.ok (r'.handOut n r'.unread).1, (r'.handOut n r'.unread).2) := by
  intro hrefill
  rw [DecodedReader.read, if_neg (Nat.ne_of_gt hn), h, hrefill]
  rcases x with f | _ | _ <;> rfl

section Laws

variable (hL : L.Streams) (hroom : L.Suffices chunkSize)
include hL hroom

/-- **The three ways of a read.** -/
theorem read_cases {n : Nat} {x : Except ByteFault (List Char)} (hn : 0 < n)
    (hr : r.Stores pending) (h : r.read n = (x, r')) : Brought r pending x r' := by
  cases pending with
  | cons c cs =>
    obtain ⟨d, ds, rest, r₁, hout, hcs, hstores, hlater, hstop, hdue⟩ := hr.handOut_cons hn
    rw [read_of_unread hn hr.unread, hout] at h
    cases h
    refine .chars hstores ?_ ?_ hstop
    · rw [hcs, hlater, List.nil_append, List.append_assoc]
    · rw [hcs, hdue, List.nil_append, List.append_assoc]
  | nil =>
    cases hrefill : r.refill with
    | mk y r₁ =>
      rw [read_of_refill hn hr.unread hrefill] at h
      cases refill_cases hL hroom hr hrefill with
      | failed hlater hstop hstores hdue =>
        cases h
        exact .failed rfl hlater hstop hstores hdue
      | ended hlater hstop hlater' hstop' hstores =>
        cases h
        exact .ended rfl hlater hstop hstores hlater' hstop'
      | text hne hstores hahead =>
        obtain ⟨hlater, hstop, hdue⟩ := hahead
        obtain ⟨c, cs, htext⟩ := List.exists_cons_of_ne_nil hne
        rw [htext] at hstores
        obtain ⟨d, ds, rest, r₂, hout, hcs, hstores', hlater', hstop', hdue'⟩ :=
          hstores.handOut_cons hn
        simp only [hstores.unread, hout] at h
        cases h
        refine .chars hstores' ?_ ?_ (hstop'.trans hstop)
        · rw [hlater, htext, hcs, hlater', List.nil_append, List.nil_append, List.append_assoc]
        · rw [hdue, htext, hcs, hdue', List.nil_append, List.nil_append, List.append_assoc]

/-! ## Delivering -/

omit hL hroom in
/-- The characters still to come are those pending and those to be fetched. -/
def View (stop : Option ByteFault) (r : DecodedReader L) (u : List Char) : Prop :=
  ∃ pending, r.Stores pending ∧ u = pending ++ r.later ∧ r.stop = stop

theorem delivery (stop : Option ByteFault) : Delivery stop (View (L := L) stop) where
  more {r c u n} h hn := by
    obtain ⟨pending, hstores, hu, rfl⟩ := h
    show ∃ d ds u' r', r.read n = (.ok (d :: ds), r') ∧ _
    cases hread : r.read n with
    | mk x r' =>
      cases read_cases hL hroom hn hstores hread with
      | @chars d ds rest _ hstores' hlater _ hstop =>
        exact ⟨d, ds, rest ++ r'.later, r', rfl, hu.trans hlater, rest, hstores', rfl, hstop⟩
      | ended hpending hlater =>
        rw [hpending, hlater] at hu
        cases hu
      | failed hpending hlater =>
        rw [hpending, hlater] at hu
        cases hu
  last {r n} h hn := by
    obtain ⟨pending, hstores, hu, rfl⟩ := h
    cases hread : r.read n with
    | mk x r' =>
      rw [show Reader.read n r = (x, r') from hread]
      cases read_cases hL hroom hn hstores hread with
      | chars _ hlater =>
        rw [← hu] at hlater
        cases hlater
      | ended _ _ hstop hstores' hlater' hstop' =>
        rw [hstop]
        exact ⟨r', rfl, [], hstores', by rw [hlater']; rfl, hstop'⟩
      | failed _ _ hstop =>
        rw [hstop]

end Laws

end DecodedReader

/-- **A decoded reader delivers the text** of its bytes, and ends or fails as they do. -/
theorem DecodedReader.delivers (hL : L.Streams) (hroom : L.Suffices chunkSize)
    (script : ByteScript) (encoding : L.Encoding) :
    Delivers (DecodedReader.ofEncoding script encoding) (script.text (L.newDecoder encoding))
      script.contents.2 :=
  ⟨View script.contents.2, delivery hL hroom _, [], ⟨[], rfl, rfl⟩, rfl, rfl⟩

end CharStream
