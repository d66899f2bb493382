import CharStream.Encoding.Own
import CharStream.Percent.Encoder

/-!
# Percent-encoding, item by item

The encoder walks over UTF-16 units, looks one unit ahead, and collects the bytes of a character in
scratch bytes. None of this shows: it writes the items of the units one after the other, each by
itself, and stops at the first that fails. The scratch bytes stay as they were found up to the first
item that is escaped, and from there on there are none.

* `writeUnits_eq_writeItems` — the walk over units is a walk over items, for any character encoder
  and any sink, and whatever the scratch bytes.
* `writeItems_accepted` — where the character encoder refuses nothing that it is asked for, the
  forms of the items go to the sink.
* `encode_writes_items` — what is written for units, and for a text.
-/

namespace CharStream.Percent

open CharStream.Utf16 (Item items single units isHigh isLow isSurrogate combine ofCode unpaired)

/-! ## One item -/

section Writing

variable (safe : AsciiSet) (encoder : CharEncoder) (case : HexCase)

/-- Writes the escapes of a character. -/
def escapeAlone (c : Char) (sink : Sink) : Except EncodeError Unit × Sink :=
  let (r, _, sink) := escapeChar encoder case c sink
  (r, sink)

/-- Writes an item. A surrogate without its partner is escaped whatever is safe. -/
def writeItem : Item → Sink → Except EncodeError Unit × Sink
  | .char c, sink => if safe.contains c then copyChar c sink else escapeAlone encoder case c sink
  | .lone _, sink => escapeAlone encoder case unpaired sink

/-- Writes items until one fails. -/
def writeItems : List Item → Sink → Except EncodeError Unit × Sink
  | [], sink => (.ok (), sink)
  | i :: is, sink =>
    match writeItem safe encoder case i sink with
    | (.error e, sink) => (.error e, sink)
    | (.ok (), sink) => writeItems is sink

/-- The character that the character encoder is asked for; none for a safe one. -/
def asked : Item → Option Char
  | .char c => if safe.contains c then none else some c
  | .lone _ => some unpaired

/-- The scratch bytes after items: none once one of them was escaped. -/
def scratchLeft (scratch : List UInt8) (is : List Item) : List UInt8 :=
  if is.any fun i => (asked safe i).isSome then [] else scratch

/-- Whatever the outcome, no scratch bytes are left. -/
theorem escapeChar_eq_escapeAlone (c : Char) (sink : Sink) :
    escapeChar encoder case c sink
      = ((escapeAlone encoder case c sink).1, [], (escapeAlone encoder case c sink).2) := by
  have hscratch : (escapeChar encoder case c sink).2.1 = [] := by
    unfold escapeChar
    split
    · rfl
    · split <;> rfl
  exact Prod.ext rfl (Prod.ext hscratch rfl)

theorem containsUnit_of_isSurrogate {u : UInt16} (h : isSurrogate u = true) :
    safe.containsUnit u = false := by
  rw [Utf16.isSurrogate_eq, decide_eq_true_eq] at h
  rw [AsciiSet.containsUnit_eq_has]
  exact AsciiSet.has_of_le (by omega) safe

/-- What a unit by itself is: a surrogate, or the character with its number. -/
theorem single_cases (u : UInt16) :
    (single u = .lone u ∧ safe.containsUnit u = false ∧ ofCode u.toNat = unpaired) ∨
      ∃ c, single u = .char c ∧ safe.containsUnit u = safe.contains c ∧ ofCode u.toNat = c ∧
        Char.ofNat u.toNat = c := by
  cases hs : isSurrogate u with
  | true =>
    have hcode : ofCode u.toNat = unpaired := by
      refine if_neg fun hvalid => ?_
      rw [(Utf16.isValidChar_unit u).1 hvalid] at hs
      cases hs
    exact .inl ⟨if_pos hs, containsUnit_of_isSurrogate safe hs, hcode⟩
  | false =>
    have hcode : ofCode u.toNat = Char.ofNat u.toNat :=
      Utf16.ofCode_of_valid ((Utf16.isValidChar_unit u).2 hs)
    have hunit : safe.containsUnit u = safe.contains (Char.ofNat u.toNat) := by
      rw [AsciiSet.containsUnit_eq_has, AsciiSet.contains_eq_has, Utf16.toNat_ofNat hs]
    have hsingle : single u = .char (Char.ofNat u.toNat) := by
      rw [single, hs]
      rfl
    exact .inr ⟨_, hsingle, hunit, hcode, rfl⟩

theorem asked_single (u : UInt16) :
    asked safe (single u) = if safe.containsUnit u then none else some (ofCode u.toNat) := by
  obtain ⟨hsingle, hunit, hcode⟩ | ⟨c, hsingle, hunit, hcode, -⟩ := single_cases safe u
  · rw [hsingle, hunit, hcode]
    rfl
  · rw [hsingle, hunit, hcode, asked]

theorem writeItem_single (u : UInt16) (sink : Sink) :
    writeItem safe encoder case (single u) sink
      = if safe.containsUnit u then copyChar (Char.ofNat u.toNat) sink
        else escapeAlone encoder case (ofCode u.toNat) sink := by
  obtain ⟨hsingle, hunit, hcode⟩ | ⟨c, hsingle, hunit, hcode, hchar⟩ := single_cases safe u
  · rw [hsingle, hunit, hcode]
    rfl
  · rw [hsingle, hunit, hcode, hchar, writeItem]

/-- The first unit of a pair is not safe, and neither is the character of the pair. -/
theorem writeItem_pair {u v : UInt16} (hu : isHigh u = true) (hv : isLow v = true) :
    safe.containsUnit u = false ∧ asked safe (.char (combine u v)) = some (combine u v) ∧
      ∀ sink, writeItem safe encoder case (.char (combine u v)) sink
        = escapeAlone encoder case (combine u v) sink := by
  have hcode := Utf16.le_pairCode u v
  have hsafe : ¬ safe.contains (combine u v) = true := by
    rw [AsciiSet.contains_eq_has, Utf16.toNat_combine hu hv, AsciiSet.has_of_le (by omega) safe]
    exact Bool.false_ne_true
  have hunit : safe.containsUnit u = false := by
    rw [Utf16.isHigh_eq, decide_eq_true_eq] at hu
    rw [AsciiSet.containsUnit_eq_has]
    exact AsciiSet.has_of_le (by omega) safe
  refine ⟨hunit, ?_, ?_⟩
  · rw [asked, if_neg hsafe]
  · intro sink
    rw [writeItem, if_neg hsafe]

/-! ## Scratch bytes -/

/-- The items that are come to, as far as the room of the sink tells. -/
def comesTo (sink : Sink) (is : List Item) : List Item :=
  match sink.room with
  | none => is
  | some room => is.take (room + 1)

theorem comesTo_cons (sink : Sink) (i : Item) (is : List Item) :
    ∃ js, comesTo sink (i :: is) = i :: js := by
  rw [comesTo]
  cases sink.room with
  | none => exact ⟨is, rfl⟩
  | some room => exact ⟨is.take room, rfl⟩

theorem comesTo_of_copied {c : Char} {sink sink' : Sink} (h : copyChar c sink = (.ok (), sink'))
    (i : Item) (is : List Item) : comesTo sink (i :: is) = i :: comesTo sink' is := by
  obtain ⟨text, _ | _ | room⟩ := sink <;> cases h <;> rfl

theorem comesTo_of_full {c : Char} {sink sink' : Sink} {e : EncodeError}
    (h : copyChar c sink = (.error e, sink')) (i : Item) (is : List Item) :
    comesTo sink (i :: is) = [i] := by
  obtain ⟨text, _ | _ | room⟩ := sink <;> cases h <;> rfl

theorem scratchLeft_nil (is : List Item) : scratchLeft safe [] is = [] := by
  rw [scratchLeft, ite_self]

section Item

variable {safe encoder case} {i : Item}

theorem scratchLeft_of_asked {c : Char} (h : asked safe i = some c) (scratch : List UInt8)
    (is : List Item) : scratchLeft safe scratch (i :: is) = [] := by
  rw [scratchLeft, List.any_cons, h]
  rfl

theorem scratchLeft_of_safe (h : asked safe i = none) (scratch : List UInt8) (is : List Item) :
    scratchLeft safe scratch (i :: is) = scratchLeft safe scratch is := by
  rw [scratchLeft, List.any_cons, h]
  rfl

theorem writeItem_of_safe (h : asked safe i = none) (sink : Sink) :
    ∃ c, writeItem safe encoder case i sink = copyChar c sink := by
  cases i with
  | lone u => cases h
  | char c =>
    by_cases hc : safe.contains c
    · exact ⟨c, if_pos hc⟩
    · rw [asked, if_neg hc] at h
      cases h

variable {sink sink' : Sink}

theorem scratchLeft_of_ok (h : writeItem safe encoder case i sink = (.ok (), sink'))
    (scratch : List UInt8) (is : List Item) :
    scratchLeft safe (scratchLeft safe scratch [i]) (comesTo sink' is)
      = scratchLeft safe scratch (comesTo sink (i :: is)) := by
  cases hasked : asked safe i with
  | some c =>
    obtain ⟨js, hjs⟩ := comesTo_cons sink i is
    rw [hjs, scratchLeft_of_asked hasked, scratchLeft_of_asked hasked, scratchLeft_nil]
  | none =>
    obtain ⟨c, hitem⟩ := writeItem_of_safe hasked sink
    rw [comesTo_of_copied (hitem.symm.trans h), scratchLeft_of_safe hasked,
      scratchLeft_of_safe hasked]
    rfl

theorem scratchLeft_of_error {e : EncodeError}
    (h : writeItem safe encoder case i sink = (.error e, sink')) (scratch : List UInt8)
    (is : List Item) :
    scratchLeft safe scratch [i] = scratchLeft safe scratch (comesTo sink (i :: is)) := by
  cases hasked : asked safe i with
  | some c =>
    obtain ⟨js, hjs⟩ := comesTo_cons sink i is
    rw [hjs, scratchLeft_of_asked hasked, scratchLeft_of_asked hasked]
  | none =>
    obtain ⟨c, hitem⟩ := writeItem_of_safe hasked sink
    rw [comesTo_of_full (hitem.symm.trans h)]

end Item

/-! ## Units -/

/-- A unit that begins no pair is written by itself. -/
theorem writeUnits_single {u : UInt16} {us : List UInt16}
    (h : ∀ v, us.head? = some v → (isHigh u && isLow v) = false) (scratch : List UInt8)
    (sink : Sink) :
    writeUnits safe encoder case (u :: us) scratch sink
      = match writeItem safe encoder case (single u) sink with
        | (.error e, sink) => (.error e, scratchLeft safe scratch [single u], sink)
        | (.ok (), sink) =>
          writeUnits safe encoder case us (scratchLeft safe scratch [single u]) sink := by
  by_cases hsafe : safe.containsUnit u
  · have hasked : asked safe (single u) = none := by rw [asked_single, if_pos hsafe]
    rw [writeItem_single, if_pos hsafe, scratchLeft_of_safe hasked]
    cases us with
    | nil =>
      rw [writeUnits, if_pos hsafe]
      rcases copyChar (Char.ofNat u.toNat) sink with ⟨e | ⟨⟩, sink'⟩ <;> rfl
    | cons v us =>
      rewrite [writeUnits, if_pos hsafe]
      rcases copyChar (Char.ofNat u.toNat) sink with ⟨e | ⟨⟩, sink'⟩ <;> rfl
  · have hasked : asked safe (single u) = some (ofCode u.toNat) := by
      rw [asked_single, if_neg hsafe]
    rw [writeItem_single, if_neg hsafe, scratchLeft_of_asked hasked]
    cases us with
    | nil =>
      rw [writeUnits, if_neg hsafe, escapeChar_eq_escapeAlone]
      rcases escapeAlone encoder case (ofCode u.toNat) sink with ⟨e | ⟨⟩, sink'⟩ <;> rfl
    | cons v us =>
      have hpair : ¬ (isHigh u && isLow v) = true := by
        rw [h v rfl]
        exact Bool.false_ne_true
      rw [writeUnits, if_neg hsafe, if_neg hpair, escapeChar_eq_escapeAlone]
      rcases escapeAlone encoder case (ofCode u.toNat) sink with ⟨e | ⟨⟩, sink'⟩ <;> rfl

theorem writeUnits_pair {u v : UInt16} (h : (isHigh u && isLow v) = true) (us : List UInt16)
    (scratch : List UInt8) (sink : Sink) :
    writeUnits safe encoder case (u :: v :: us) scratch sink
      = match writeItem safe encoder case (.char (combine u v)) sink with
        | (.error e, sink) => (.error e, scratchLeft safe scratch [.char (combine u v)], sink)
        | (.ok (), sink) =>
          writeUnits safe encoder case us (scratchLeft safe scratch [.char (combine u v)])
            sink := by
  obtain ⟨hu, hv⟩ := Bool.and_eq_true_iff.1 h
  obtain ⟨hunit, hasked, hitem⟩ := writeItem_pair safe encoder case hu hv
  have hsafe : ¬ safe.containsUnit u = true := by simp [hunit]
  rw [writeUnits, if_neg hsafe, if_pos h, escapeChar_eq_escapeAlone, hitem,
    scratchLeft_of_asked hasked]
  rcases escapeAlone encoder case (combine u v) sink with ⟨e | ⟨⟩, sink'⟩ <;> rfl

/-- **Units are written item by item.** -/
theorem writeUnits_eq_writeItems (us : List UInt16) (scratch : List UInt8) (sink : Sink) :
    writeUnits safe encoder case us scratch sink
      = ((writeItems safe encoder case (items us) sink).1,
          scratchLeft safe scratch (comesTo sink (items us)),
          (writeItems safe encoder case (items us) sink).2) := by
  fun_induction items us generalizing scratch sink with
  | case1 =>
    obtain ⟨text, _ | room⟩ := sink <;> rfl
  | case2 u =>
    rw [writeUnits_single safe encoder case (by simp), writeItems]
    rcases hitem : writeItem safe encoder case (single u) sink with ⟨e | ⟨⟩, sink'⟩
    · rw [← scratchLeft_of_error hitem]
    · rw [← scratchLeft_of_ok hitem]
      obtain ⟨text, _ | room⟩ := sink' <;> rfl
  | case3 u v us h ih =>
    rw [writeUnits_pair safe encoder case h, writeItems]
    rcases hitem : writeItem safe encoder case (.char (combine u v)) sink with ⟨e | ⟨⟩, sink'⟩
    · rw [← scratchLeft_of_error hitem]
    · rw [← scratchLeft_of_ok hitem]
      exact ih _ sink'
  | case4 u v us h ih =>
    rw [writeUnits_single safe encoder case (by simpa using h), writeItems]
    rcases hitem : writeItem safe encoder case (single u) sink with ⟨e | ⟨⟩, sink'⟩
    · rw [← scratchLeft_of_error hitem]
    · rw [← scratchLeft_of_ok hitem]
      exact ih _ sink'

/-! ## Characters that are accepted -/

/-- Gives characters to a sink. -/
def put (cs : List Char) (sink : Sink) : Except EncodeError Unit × Sink :=
  match sink.putAll cs with
  | (true, sink) => (.ok (), sink)
  | (false, sink) => (.error .sink, sink)

theorem putAll_append (cs ds : List Char) (sink : Sink) :
    sink.putAll (cs ++ ds) = match sink.putAll cs with
      | (false, sink) => (false, sink)
      | (true, sink) => sink.putAll ds := by
  induction cs generalizing sink with
  | nil => rfl
  | cons c cs ih =>
    rw [List.cons_append, Sink.putAll, Sink.putAll]
    rcases sink.put c with ⟨_ | _, sink'⟩
    · rfl
    · exact ih sink'

theorem put_append (cs ds : List Char) (sink : Sink) :
    put (cs ++ ds) sink = match put cs sink with
      | (.error e, sink) => (.error e, sink)
      | (.ok (), sink) => put ds sink := by
  rw [put, put, putAll_append]
  rcases sink.putAll cs with ⟨_ | _, sink'⟩
  · rfl
  · rfl

theorem putAll_unbounded (cs : List Char) (out : String) :
    Sink.putAll cs { text := out } = (true, { text := out ++ String.ofList cs }) := by
  induction cs generalizing out with
  | nil => simp [Sink.putAll]
  | cons c cs ih =>
    have hput : Sink.put c { text := out } = (true, { text := out ++ String.ofList [c] }) := by
      rw [Sink.put, String.push_eq_append]
      rfl
    rw [Sink.putAll, hput]
    simp only [ih, String.append_assoc, ← String.ofList_append, List.singleton_append]

theorem copyChar_eq_put (c : Char) (sink : Sink) : copyChar c sink = put [c] sink := by
  rw [copyChar, put, Sink.putAll]
  rcases sink.put c with ⟨_ | _, sink'⟩
  · rfl
  · rfl

/-- The character encoder accepts what it is asked for to write the item, and `bytes` tells the
bytes of these characters. -/
def Accepts (bytes : Char → List UInt8) (i : Item) : Prop :=
  ∀ c, asked safe i = some c → encoder.encode c [] = (.ok (), bytes c)

/-- The form of a character: itself if it is safe, and the escapes of its bytes otherwise. -/
def charForm (bytes : Char → List UInt8) (c : Char) : List Char :=
  if safe.contains c then [c] else escape case (bytes c)

/-- The form of an item. -/
def itemForm (bytes : Char → List UInt8) : Item → List Char
  | .char c => charForm safe case bytes c
  | .lone _ => escape case (bytes unpaired)

variable {safe encoder} {bytes : Char → List UInt8}

theorem escapeAlone_accepted {c : Char} (h : encoder.encode c [] = (.ok (), bytes c))
    (sink : Sink) : escapeAlone encoder case c sink = put (escape case (bytes c)) sink := by
  rw [escapeAlone, escapeChar, h, put]
  dsimp only
  rcases sink.putAll (escape case (bytes c)) with ⟨_ | _, sink'⟩
  · rfl
  · rfl

theorem writeItem_accepted {i : Item} (h : Accepts safe encoder bytes i) (sink : Sink) :
    writeItem safe encoder case i sink = put (itemForm safe case bytes i) sink := by
  cases i with
  | lone u => exact escapeAlone_accepted case (h unpaired rfl) sink
  | char c =>
    rw [writeItem, itemForm, charForm]
    by_cases hsafe : safe.contains c
    · rw [if_pos hsafe, if_pos hsafe, copyChar_eq_put]
    · have hasked : asked safe (.char c) = some c := if_neg hsafe
      rw [if_neg hsafe, if_neg hsafe, escapeAlone_accepted case (h c hasked)]

/-- **Accepted items** are given to the sink in their forms. -/
theorem writeItems_accepted {is : List Item} (h : ∀ i ∈ is, Accepts safe encoder bytes i)
    (sink : Sink) :
    writeItems safe encoder case is sink = put (is.flatMap (itemForm safe case bytes)) sink := by
  induction is generalizing sink with
  | nil => rfl
  | cons i is ih =>
    have hi := writeItem_accepted case (h i List.mem_cons_self) sink
    rw [writeItems, hi, List.flatMap_cons, put_append]
    rcases put (itemForm safe case bytes i) sink with ⟨e | ⟨⟩, sink'⟩
    · rfl
    · apply ih
      intro j hj
      exact h j (List.mem_cons_of_mem i hj)

end Writing

/-! ## The encoder -/

section Encoding

variable {L : EncodingLibrary} {e : Encoder L} {encoder : CharEncoder} {target : Target L}
  {bytes : Char → List UInt8} (htarget : e.target.encoder = (.ok encoder, target)) (case : HexCase)
include htarget

theorem encodeUnits_eq_writeItems (us : List UInt16) (sink : Sink) :
    e.encodeUnits case us sink
      = ((writeItems e.safe encoder case (items us) sink).1,
          (writeItems e.safe encoder case (items us) sink).2,
          { e with
            target, scratch := scratchLeft e.safe e.scratch (comesTo sink (items us)) }) := by
  rw [Encoder.encodeUnits, htarget]
  simp only [writeUnits_eq_writeItems]

theorem encodeUnits_accepted {us : List UInt16}
    (h : ∀ i ∈ items us, Accepts e.safe encoder bytes i) (out : String) :
    e.encodeUnits case us { text := out }
      = (.ok (),
          { text := out ++ String.ofList ((items us).flatMap (itemForm e.safe case bytes)) },
          { e with target, scratch := scratchLeft e.safe e.scratch (items us) }) := by
  rw [encodeUnits_eq_writeItems htarget, writeItems_accepted case h, put, putAll_unbounded]
  rfl

theorem encode_accepted {text : String}
    (h : ∀ c ∈ text.toList, Accepts e.safe encoder bytes (.char c)) (out : String) :
    e.encode case text { text := out }
      = (.ok (),
          { text := out ++ String.ofList (text.toList.flatMap (charForm e.safe case bytes)) },
          { e with target, scratch := scratchLeft e.safe e.scratch (text.toList.map .char) }) := by
  have hitems : ∀ i ∈ items (units text.toList), Accepts e.safe encoder bytes i := by
    rw [Utf16.items_units]
    exact List.forall_mem_map.2 h
  rw [Encoder.encode, encodeUnits_accepted htarget case hitems, Utf16.items_units,
    List.flatMap_map]
  rfl

/-- **Items are written one by one**, where the character encoder accepts what it is asked for: a
character as itself or the escapes of its bytes, and a surrogate without its partner as the escapes
of the question mark, be this safe or not. The items of a text are its characters, so every pair is
put together again. -/
theorem encode_writes_items (bytes : Char → List UInt8) (out : String) :
    (∀ us : List UInt16, (∀ i ∈ items us, Accepts e.safe encoder bytes i) →
      e.encodeUnits case us { text := out }
        = (.ok (),
            { text := out ++ String.ofList ((items us).flatMap (itemForm e.safe case bytes)) },
            { e with target, scratch := scratchLeft e.safe e.scratch (items us) })) ∧
      ∀ text : String, items (units text.toList) = text.toList.map .char ∧
        ((∀ c ∈ text.toList, Accepts e.safe encoder bytes (.char c)) →
          e.encode case text { text := out }
            = (.ok (),
                { text :=
                    out ++ String.ofList (text.toList.flatMap (charForm e.safe case bytes)) },
                { e with
                  target, scratch := scratchLeft e.safe e.scratch (text.toList.map .char) })) := by
  refine ⟨?_, ?_⟩
  · intro us h
    exact encodeUnits_accepted htarget case h out
  · intro text
    refine ⟨Utf16.items_units text.toList, ?_⟩
    intro h
    exact encode_accepted htarget case h out

end Encoding

/-- UTF-8 for every character but one. -/
def utf8Without (refused : Char) : CharEncoder where
  encode c bytes :=
    if c = refused then (.error (.unmappable c), bytes) else CharEncoder.utf8.encode c bytes

/-- Two high surrogates before a low one, a question mark that is safe, a low surrogate by itself, a
safe character that the character encoder would refuse, and a high surrogate at the end. -/
theorem encode_writes_items_unpaired :
    let e : Encoder .own :=
      { safe := .ofList ['?', 'a'], target := .custom (utf8Without 'a'), scratch := [1] }
    let us : List UInt16 := [0xD83D, 0xD83D, 0xDE00, 0x3F, 0xDC00, 0x61, 0xD800]
    (∀ i ∈ items us, Accepts e.safe (utf8Without 'a') String.utf8EncodeChar i) ∧
      (e.encodeUnits .upper us { text := "q=" }).2.1.text = "q=%3F%F0%9F%98%80?%3Fa%3F" ∧
      (e.encode .lower "?a😀" { text := "q=" }).2.1.text = "q=?a%f0%9f%98%80" := by
  intro e us
  have htarget : e.target.encoder = (.ok (utf8Without 'a'), e.target) := rfl
  have haccepts {i : Item} (h : asked e.safe i ≠ some 'a') :
      Accepts e.safe (utf8Without 'a') String.utf8EncodeChar i := by
    intro c hc
    have hne : c ≠ 'a' := by
      rintro rfl
      exact h hc
    exact if_neg hne
  have hunits : ∀ i ∈ items us, Accepts e.safe (utf8Without 'a') String.utf8EncodeChar i := by
    have hasked : ∀ i ∈ items us, asked e.safe i ≠ some 'a' := by decide +kernel
    intro i hi
    exact haccepts (hasked i hi)
  refine ⟨hunits, ?_, ?_⟩
  · rw [(encode_writes_items htarget .upper String.utf8EncodeChar "q=").1 us hunits]
    decide +kernel
  · have htext : ∀ c ∈ "?a😀".toList,
        Accepts e.safe (utf8Without 'a') String.utf8EncodeChar (.char c) := by
      have hasked : ∀ i ∈ items (units "?a😀".toList), asked e.safe i ≠ some 'a' := by
        decide +kernel
      rw [Utf16.items_units] at hasked
      intro c hc
      exact haccepts (hasked _ (List.mem_map_of_mem hc))
    rw [((encode_writes_items htarget .lower String.utf8EncodeChar "q=").2 "?a😀").2 htext]
    decide +kernel

end CharStream.Percent
