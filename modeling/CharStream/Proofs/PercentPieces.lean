import CharStream.Proofs.OwnEncodings
import CharStream.Proofs.PercentCanonical

/-!
# Encoding piece by piece

Input may be encoded in pieces, each by a call of its own, with one encoder to one sink. The
encoder looks one unit ahead, and not past the end of a piece. So the only thing that a cut can
change is a pair with a half on either side of it, and then each half stands alone.

No call is influenced by the ones before it, so what holds of one cut holds of any number.

* `items_append`, `items_append_cut` — the items of two pieces together.
* `encodePieces_eq` — if no pair is cut, then pieces are encoded as the whole, whatever fails.
* `length_unitsForm_pieces` — in UTF-8, every pair that is cut makes the text shorter.
* `encode_piecewise` — the law for units and for texts, and that for UTF-8 its exception is exact.
-/

namespace CharStream.Percent

open CharStream.Utf16 (Item items single units isHigh isLow isSurrogate combine)

/-! ## Cuts -/

/-- Whether a pair is cut between two pieces: the first ends in its high surrogate and the second
begins with its low one. -/
def cutsPair (us vs : List UInt16) : Bool := us.getLast?.any isHigh && vs.head?.any isLow

/-- The number of pairs that are cut between the pieces `us :: rest`. Pieces may be empty. -/
def cuts : List UInt16 → List (List UInt16) → Nat
  | _, [] => 0
  | us, vs :: rest => (cutsPair us (vs ++ rest.flatten)).toNat + cuts vs rest

theorem cuts_pair (us vs : List UInt16) : cuts us [vs] = (cutsPair us vs).toNat := by
  simp [cuts]

theorem cutsPair_iff {us vs : List UInt16} :
    cutsPair us vs = true ↔ ∃ high low, us.getLast? = some high ∧ isHigh high = true ∧
      vs.head? = some low ∧ isLow low = true := by
  simp only [cutsPair, Bool.and_eq_true, Option.any_eq_true]
  constructor
  · rintro ⟨⟨high, hlast, hhigh⟩, low, hhead, hlow⟩
    exact ⟨high, low, hlast, hhigh, hhead, hlow⟩
  · rintro ⟨high, low, hlast, hhigh, hhead, hlow⟩
    exact ⟨⟨high, hlast, hhigh⟩, low, hhead, hlow⟩

theorem isLow_of_isHigh {u : UInt16} (h : isHigh u = true) : isLow u = false := by
  rw [Utf16.isHigh_eq, decide_eq_true_eq] at h
  rw [Utf16.isLow_eq, decide_eq_false_iff_not]
  omega

theorem isHigh_of_isLow {u : UInt16} (h : isLow u = true) : isHigh u = false := by
  rw [← Bool.not_eq_true]
  intro hhigh
  rw [isLow_of_isHigh hhigh] at h
  cases h

theorem single_of_half {u : UInt16} (h : isHigh u = true ∨ isLow u = true) :
    single u = .lone u := by
  rw [Utf16.isHigh_eq, Utf16.isLow_eq, decide_eq_true_eq, decide_eq_true_eq] at h
  have hsurrogate : isSurrogate u = true := by
    rw [Utf16.isSurrogate_eq, decide_eq_true_eq]
    omega
  rw [single, if_pos hsurrogate]

/-- **Where no pair is cut**, the items are those of either piece. The induction follows the walk
over the first piece, which sees past its end only at its last unit. -/
theorem items_append {us vs : List UInt16} (h : cutsPair us vs = false) :
    items (us ++ vs) = items us ++ items vs := by
  fun_induction items us with
  | case1 => rfl
  | case2 u =>
    cases vs with
    | nil => rfl
    | cons v vs =>
      have hpair : ¬ (isHigh u && isLow v) = true := by
        rw [Bool.not_eq_true]
        exact h
      rw [List.singleton_append, items, if_neg hpair, List.singleton_append]
  | case3 u v us hpair ih =>
    -- the rest may be empty, and then nothing of it can be half of a pair
    have hrest : cutsPair us vs = false := by
      cases us with
      | nil => rfl
      | cons w us => simpa [cutsPair] using h
    rw [List.cons_append, List.cons_append, items, if_pos hpair, ih hrest, List.cons_append]
  | case4 u v us hpair ih =>
    have hrest : cutsPair (v :: us) vs = false := by simpa [cutsPair] using h
    rw [List.cons_append, List.cons_append, items, if_neg hpair, ← List.cons_append, ih hrest,
      List.cons_append]

/-- **Where a pair is cut**, its halves stand alone. -/
theorem items_append_cut {us vs : List UInt16} (h : cutsPair us vs = true) :
    ∃ high low is js, isHigh high = true ∧ isLow low = true ∧
      items us = is ++ [.lone high] ∧ items vs = .lone low :: js ∧
      items (us ++ vs) = is ++ .char (combine high low) :: js := by
  obtain ⟨high, low, hlast, hhigh, hhead, hlow⟩ := cutsPair_iff.1 h
  obtain ⟨front, rfl⟩ := List.getLast?_eq_some_iff.1 hlast
  obtain ⟨rest, rfl⟩ := List.head?_eq_some_iff.1 hhead
  have hpair : (isHigh high && isLow low) = true := by rw [hhigh, hlow, Bool.and_self]
  -- a cut just before the high surrogate cuts no pair, and lets either half be looked at alone
  have hfront (ws : List UInt16) : cutsPair front (high :: ws) = false := by
    simp [cutsPair, isLow_of_isHigh hhigh]
  refine ⟨high, low, items front, items rest, hhigh, hlow, ?_, ?_, ?_⟩
  · rw [items_append (hfront []), items, single_of_half (.inl hhigh)]
  · rw [Utf16.items_cons_of_not_isHigh (isHigh_of_isLow hlow), single_of_half (.inr hlow)]
  · rw [List.append_assoc, List.singleton_append, items_append (hfront (low :: rest)), items,
      if_pos hpair]

/-! ## The encoder -/

section Items

variable {safe : AsciiSet} {encoder : CharEncoder} {case : HexCase}

theorem writeItems_append (is js : List Item) (sink : Sink) :
    writeItems safe encoder case (is ++ js) sink
      = match writeItems safe encoder case is sink with
        | (.error err, sink) => (.error err, sink)
        | (.ok (), sink) => writeItems safe encoder case js sink := by
  induction is generalizing sink with
  | nil => rfl
  | cons i is ih =>
    rw [List.cons_append, writeItems, writeItems]
    rcases writeItem safe encoder case i sink with ⟨err | ⟨⟩, sink'⟩
    · rfl
    · exact ih sink'

theorem comesTo_nil (sink : Sink) : comesTo sink [] = [] := by
  rw [comesTo]
  cases sink.room <;> rfl

theorem scratchLeft_append {is : List Item} {sink sink' : Sink}
    (h : writeItems safe encoder case is sink = (.ok (), sink')) (scratch : List UInt8)
    (js : List Item) :
    scratchLeft safe scratch (comesTo sink (is ++ js))
      = scratchLeft safe (scratchLeft safe scratch (comesTo sink is)) (comesTo sink' js) := by
  induction is generalizing sink scratch with
  | nil =>
    cases h
    rw [comesTo_nil]
    rfl
  | cons i is ih =>
    rw [writeItems] at h
    rcases hitem : writeItem safe encoder case i sink with ⟨err | ⟨⟩, sink₁⟩
    · rw [hitem] at h
      cases h
    · rw [hitem] at h
      rw [List.cons_append, ← scratchLeft_of_ok hitem, ← scratchLeft_of_ok hitem]
      exact ih h _

theorem scratchLeft_append_of_error {is : List Item} {sink sink' : Sink} {err : EncodeError}
    (h : writeItems safe encoder case is sink = (.error err, sink')) (scratch : List UInt8)
    (js : List Item) :
    scratchLeft safe scratch (comesTo sink (is ++ js))
      = scratchLeft safe scratch (comesTo sink is) := by
  induction is generalizing sink scratch with
  | nil => cases h
  | cons i is ih =>
    rw [writeItems] at h
    rcases hitem : writeItem safe encoder case i sink with ⟨err | ⟨⟩, sink₁⟩
    · rw [List.cons_append, ← scratchLeft_of_error hitem, ← scratchLeft_of_error hitem]
    · rw [hitem] at h
      rw [List.cons_append, ← scratchLeft_of_ok hitem, ← scratchLeft_of_ok hitem]
      exact ih h _

end Items

variable {L : EncodingLibrary}

namespace Encoder

/-- Encodes the pieces `us :: rest` in turn, with one encoder to one sink, until a call fails. -/
def encodePieces (case : HexCase) :
    List UInt16 → List (List UInt16) → Sink → Encoder L →
      Except EncodeError Unit × Sink × Encoder L
  | us, [], sink, e => e.encodeUnits case us sink
  | us, vs :: rest, sink, e =>
    match e.encodeUnits case us sink with
    | (.error err, sink, e) => (.error err, sink, e)
    | (.ok (), sink, e) => encodePieces case vs rest sink e

/-- **One cut** that spares pairs does not show, and neither in what a failure leaves. -/
theorem encodeUnits_append {us vs : List UInt16} (h : cutsPair us vs = false) (e : Encoder L)
    (case : HexCase) (sink : Sink) :
    e.encodeUnits case (us ++ vs) sink
      = match e.encodeUnits case us sink with
        | (.error err, sink, e) => (.error err, sink, e)
        | (.ok (), sink, e) => e.encodeUnits case vs sink := by
  rcases htarget : e.target.encoder with ⟨err | encoder, target⟩
  · rw [encodeUnits, encodeUnits, htarget]
  · rw [encodeUnits_eq_writeItems htarget, encodeUnits_eq_writeItems htarget, items_append h,
      writeItems_append]
    rcases hfirst : writeItems e.safe encoder case (items us) sink with ⟨err | ⟨⟩, sink'⟩
    · rw [scratchLeft_append_of_error hfirst]
    · rw [scratchLeft_append hfirst]
      dsimp only
      rw [encodeUnits_eq_writeItems (Target.encoder_again htarget)]

/-- **Any cuts** that spare pairs do not show. -/
theorem encodePieces_eq {us : List UInt16} {rest : List (List UInt16)} (h : cuts us rest = 0)
    (e : Encoder L) (case : HexCase) (sink : Sink) :
    e.encodePieces case us rest sink = e.encodeUnits case (us ++ rest.flatten) sink := by
  induction rest generalizing us e sink with
  | nil => rw [encodePieces, List.flatten_nil, List.append_nil]
  | cons vs rest ih =>
    obtain ⟨hcut, hrest⟩ := Nat.add_eq_zero_iff.1 h
    rw [encodePieces, List.flatten_cons, encodeUnits_append (by simpa using hcut)]
    rcases e.encodeUnits case us sink with ⟨err | ⟨⟩, sink', e'⟩
    · rfl
    · exact ih hrest e' sink'

end Encoder

/-! ## Targets that refuse nothing -/

namespace Encoder

/-- The target has bytes for every character. -/
def RefusesNothing (e : Encoder L) : Prop := ∃ bytes, e.Maps bytes

variable {e : Encoder L} {bytes : Char → List UInt8}

theorem Maps.encodePieces (h : e.Maps bytes) (case : HexCase) (us : List UInt16)
    (rest : List (List UInt16)) (out : String) :
    ∃ e', e.encodePieces case us rest { text := out }
      = (.ok (),
          { text := out ++ String.ofList ((us :: rest).flatMap (unitsForm e.safe case bytes)) },
          e') := by
  induction rest generalizing us e out with
  | nil =>
    obtain ⟨e', hencode, -⟩ := h.encodeUnits case us out
    refine ⟨e', ?_⟩
    rw [Encoder.encodePieces, hencode, List.flatMap_singleton]
  | cons vs rest ih =>
    obtain ⟨e', hencode, hsafe, hmaps⟩ := h.encodeUnits case us out
    obtain ⟨e'', hrest⟩ := ih hmaps vs (out ++ String.ofList (unitsForm e.safe case bytes us))
    refine ⟨e'', ?_⟩
    rw [Encoder.encodePieces, hencode, List.flatMap_cons, String.ofList_append,
      ← String.append_assoc, ← hsafe]
    rw [← hsafe] at hrest
    exact hrest

end Encoder

/-! ## What a cut costs in UTF-8 -/

section Utf8

variable (safe : AsciiSet) (case : HexCase)

theorem length_escape (bytes : List UInt8) : (escape case bytes).length = 3 * bytes.length := by
  induction bytes with
  | nil => rfl
  | cons b bs ih =>
    rw [escape, List.flatMap_cons, List.length_append, ← escape, ih, escapeByte]
    simp only [List.length_cons, List.length_nil]
    omega

theorem length_itemForm_pair {high low : UInt16} (hhigh : isHigh high = true)
    (hlow : isLow low = true) :
    (itemForm safe case String.utf8EncodeChar (.char (combine high low))).length = 12 := by
  have hcode : 0x10000 ≤ (combine high low).toNat := by
    rw [Utf16.toNat_combine hhigh hlow]
    exact Utf16.le_pairCode high low
  have hsafe : ¬ safe.contains (combine high low) = true := by
    rw [AsciiSet.contains_eq_has, AsciiSet.has_of_le (by omega)]
    exact Bool.false_ne_true
  have hbytes : (String.utf8EncodeChar (combine high low)).length = 4 := by
    rw [String.length_utf8EncodeChar, Char.utf8Size_eq_four_iff, UInt32.lt_iff_toNat_lt]
    exact hcode
  rw [itemForm, charForm, if_neg hsafe, length_escape, hbytes]

theorem length_itemForm_lone (u : UInt16) :
    (itemForm safe case String.utf8EncodeChar (.lone u)).length = 3 := by
  rw [itemForm, length_escape]
  rfl

/-- A pair that is cut has six characters less. -/
theorem length_unitsForm_append (us vs : List UInt16) :
    (unitsForm safe case String.utf8EncodeChar (us ++ vs)).length
      = (unitsForm safe case String.utf8EncodeChar us).length
        + (unitsForm safe case String.utf8EncodeChar vs).length
        + 6 * (cutsPair us vs).toNat := by
  cases h : cutsPair us vs with
  | false =>
    rw [unitsForm, items_append h, List.flatMap_append, List.length_append]
    rfl
  | true =>
    obtain ⟨high, low, is, js, hhigh, hlow, hus, hvs, hboth⟩ := items_append_cut h
    have hpair := length_itemForm_pair safe case hhigh hlow
    rw [unitsForm, unitsForm, unitsForm, hboth, hus, hvs]
    simp only [List.flatMap_append, List.flatMap_cons, List.flatMap_nil, List.length_append,
      List.append_nil, length_itemForm_lone, hpair, Bool.toNat_true]
    omega

/-- **Every pair that is cut** makes the text shorter. -/
theorem length_unitsForm_pieces (us : List UInt16) (rest : List (List UInt16)) :
    (unitsForm safe case String.utf8EncodeChar (us ++ rest.flatten)).length
      = ((us :: rest).flatMap (unitsForm safe case String.utf8EncodeChar)).length
        + 6 * cuts us rest := by
  induction rest generalizing us with
  | nil => simp [cuts]
  | cons vs rest ih =>
    have hrest := ih vs
    rw [List.flatten_cons, length_unitsForm_append, List.flatMap_cons, List.length_append, cuts]
    omega

end Utf8

/-! ## The law -/

theorem cutsPair_units (cs : List Char) (vs : List UInt16) :
    cutsPair (Utf16.units cs) vs = false := by
  rw [← Bool.not_eq_true]
  intro h
  obtain ⟨high, -, is, -, -, -, hunits, -⟩ := items_append_cut h
  have hlone : Item.lone high ∈ items (Utf16.units cs) := by
    rw [hunits]
    exact List.mem_append_right _ List.mem_cons_self
  rw [Utf16.items_units] at hlone
  obtain ⟨c, -, hc⟩ := List.mem_map.1 hlone
  cases hc

/-- **Pieces and the whole.** Where no pair is cut, calls for the pieces in turn do what one call
for the whole does: in the outcome, in the sink, and in the encoder that is left. Texts cut no
pairs, so the form of two together is that of one, followed by that of the other. In UTF-8 every cut
of a pair shows. -/
theorem encode_piecewise {L : EncodingLibrary} (e : Encoder L) (case : HexCase) :
    (∀ us rest sink, cuts us rest = 0 →
      e.encodePieces case us rest sink = e.encodeUnits case (us ++ rest.flatten) sink) ∧
    (∀ us vs, cuts us [vs] = 0 ↔
      ¬ ∃ high low, us.getLast? = some high ∧ isHigh high = true ∧
        vs.head? = some low ∧ isLow low = true) ∧
    (∀ s t : String, cuts (Utf16.units s.toList) [Utf16.units t.toList] = 0) ∧
    (e.RefusesNothing →
      (∀ us rest out, (e.encodePieces case us rest { text := out }).1 = .ok ()) ∧
      ∀ s t : String,
        let encoded (text : String) : String := (e.encodeToString case text).1
        let left : Encoder L := (e.encodeToString case s).2
        encoded (s ++ t) = encoded s ++ encoded t ∧ (left.encodeToString case t).1 = encoded t) ∧
    (e.WritesUtf8 → ∀ us rest out,
      (e.encodePieces case us rest { text := out }).2.1.text
          = (e.encodeUnits case (us ++ rest.flatten) { text := out }).2.1.text ↔
        cuts us rest = 0) := by
  refine ⟨?_, ?_, ?_, ?_, ?_⟩
  · intro us rest sink h
    exact Encoder.encodePieces_eq h e case sink
  · intro us vs
    rw [cuts_pair, ← cutsPair_iff, Bool.not_eq_true, Bool.toNat_eq_zero]
  · intro s t
    rw [cuts_pair, cutsPair_units]
    rfl
  · rintro ⟨bytes, hmaps⟩
    refine ⟨?_, ?_⟩
    · intro us rest out
      obtain ⟨e', hpieces⟩ := hmaps.encodePieces case us rest out
      rw [hpieces]
    · intro s t encoded left
      obtain ⟨_, hboth, -⟩ := hmaps.encodeToString case (s ++ t)
      obtain ⟨e', hs, hsafe, hmaps'⟩ := hmaps.encodeToString case s
      obtain ⟨_, ht, -⟩ := hmaps.encodeToString case t
      obtain ⟨_, ht', -⟩ := hmaps'.encodeToString case t
      have hleft : left = e' := congrArg Prod.snd hs
      refine ⟨?_, ?_⟩
      · simp only [encoded, hboth, hs, ht, String.toList_append, List.flatMap_append,
          String.ofList_append]
      · rw [hleft, ht', hsafe]
        simp only [encoded, ht]
  · intro hutf8 us rest out
    constructor
    · intro htext
      obtain ⟨e', hpieces⟩ := hutf8.maps.encodePieces case us rest out
      obtain ⟨e'', hwhole, -⟩ := hutf8.maps.encodeUnits case (us ++ rest.flatten) out
      have hlength := length_unitsForm_pieces e.safe case us rest
      rw [hpieces, hwhole] at htext
      have hforms := String.ofList_injective ((String.append_right_inj out).1 htext)
      rw [← hforms] at hlength
      omega
    · intro h
      rw [Encoder.encodePieces_eq h]

/-- A pair that is cut by an empty piece, where the question mark is safe; the same units without
the cut; and a text of Japanese, to an encoding with shift sequences. -/
theorem encode_piecewise_cut :
    let utf8 : Encoder .own := .ofOptions { label := "utf-16le" }
    let e := utf8.addSafes ['?']
    let jis : Encoder .own := .ofOptions { label := "iso-2022-jp" }
    let pieces (us : List UInt16) (rest : List (List UInt16)) : String :=
      (e.encodePieces .upper us rest {}).2.1.text
    (cuts [0x3F, 0xD83D] [[], [0xDE00, 0x61]] = 1 ∧ cuts [0x3F] [[0xD83D, 0xDE00], [0x61]] = 0 ∧
      e.WritesUtf8 ∧ jis.RefusesNothing) ∧
    pieces [0x3F, 0xD83D] [[], [0xDE00, 0x61]] = "?%3F%3Fa" ∧
      (e.encodeUnits .upper [0x3F, 0xD83D, 0xDE00, 0x61] {}).2.1.text ≠ "?%3F%3Fa" ∧
      pieces [0x3F] [[0xD83D, 0xDE00], [0x61]] = "?%F0%9F%98%80a" ∧
      (jis.encodeToString .lower ("世" ++ "é")).1 = "%1b%24%42%40%24%1b%28%42" ++ "%3f" := by
  intro utf8 e jis pieces
  have hcut : cuts [0x3F, 0xD83D] [[], [0xDE00, 0x61]] = 1 := by decide +kernel
  have hspared : cuts [0x3F] [[0xD83D, 0xDE00], [0x61]] = 0 := by decide +kernel
  have hutf8 : e.WritesUtf8 :=
    Encoder.WritesUtf8.addSafes (Encoder.writesUtf8_ofOptions (by decide +kernel)) _
  have hjis : jis.RefusesNothing := by
    have hlabel : EncodingLibrary.own.ofLabel? "iso-2022-jp" = some .iso2022Jp := by decide +kernel
    exact ⟨_, Encoder.Writes.maps (EncodingLibrary.own_keeps _) ⟨_, .inr ⟨rfl, hlabel⟩⟩⟩
  obtain ⟨hpieces, -, -, -, hexact⟩ := encode_piecewise e .upper
  obtain ⟨-, -, -, hrefuses, -⟩ := encode_piecewise jis .lower
  have htext : pieces [0x3F, 0xD83D] [[], [0xDE00, 0x61]] = "?%3F%3Fa" := by decide +kernel
  refine ⟨⟨hcut, hspared, hutf8, hjis⟩, htext, ?_, ?_, ?_⟩
  · intro hwhole
    have hcuts := (hexact hutf8 [0x3F, 0xD83D] [[], [0xDE00, 0x61]] "").1 (htext.trans hwhole.symm)
    rw [hcut] at hcuts
    cases hcuts
  · show (e.encodePieces .upper [0x3F] [[0xD83D, 0xDE00], [0x61]] {}).2.1.text = _
    rw [hpieces _ _ _ hspared]
    decide +kernel
  · have htogether := ((hrefuses hjis).2 "世" "é").1
    exact htogether.trans (by decide +kernel)

end CharStream.Percent
