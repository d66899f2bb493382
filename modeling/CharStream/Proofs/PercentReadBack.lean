import CharStream.Check.Percent
import CharStream.Proofs.EncodingReadBack
import CharStream.Proofs.OwnEncodings
import CharStream.Proofs.PercentFailures
import CharStream.Proofs.PercentPieces

/-!
# Reading back what was percent-encoded

The check of `PercentCase` passes whatever the units, the safe characters, and the case of the
digits, if the target is a faithful encoding.

What is written for an item reads as the bytes of one character: a safe character is ASCII, so it is
its own byte, and a surrogate without its partner reads as a question mark, be that safe or not. So
the escapes of all units read as the bytes of their lossy text, and these decode to a text which is
written differently, where a question mark came in, but reads as the same bytes.

* `Whole.wellFormed` — safe characters and whole escapes pass as such.
* `unescape_itemForm_append` — what one item reads as.
* `Encoder.Maps.reads`, `Encoder.Maps.reads_again` — what the encoded forms of units, and of the
  text that they decode to, read as.
* `percent_reads_back` — that the check passes, and on what.
-/

namespace CharStream.Percent

open CharStream.Encoding
open CharStream.Utf16 (Item items unpaired)
open Check (PercentCase)

variable {L : EncodingLibrary} {encoding : L.Encoding}

/-! ## Safe characters and whole escapes -/

section Whole

variable {safe : AsciiSet} {case : HexCase} {cs : List Char}

theorem lt_of_isDigit {c : Char} (h : case.isDigit c = true) : c.toNat < 0x80 := by
  have hle {d : Char} (hc : c ≤ d) (hd : d.toNat < 0x80) : c.toNat < 0x80 :=
    Nat.lt_of_le_of_lt hc hd
  unfold HexCase.isDigit at h
  rcases Bool.or_eq_true_iff.1 h with hdecimal | hletter
  · exact hle (of_decide_eq_true (Bool.and_eq_true_iff.1 hdecimal).2) (by decide : '9'.toNat < 0x80)
  · cases case with
    | lower => exact hle (of_decide_eq_true (Bool.and_eq_true_iff.1 hletter).2) (by decide)
    | upper => exact hle (of_decide_eq_true (Bool.and_eq_true_iff.1 hletter).2) (by decide)

theorem Whole.lt (h : Whole safe case cs) : ∀ c ∈ cs, c.toNat < 0x80 := by
  induction h with
  | nil => exact fun _ hc => nomatch hc
  | safe hc _ ih => exact List.forall_mem_cons.2 ⟨AsciiSet.lt_of_contains hc, ih⟩
  | escape hhigh hlow _ ih =>
    refine List.forall_mem_cons.2 ⟨by decide, List.forall_mem_cons.2 ⟨lt_of_isDigit hhigh, ?_⟩⟩
    exact List.forall_mem_cons.2 ⟨lt_of_isDigit hlow, ih⟩

theorem Whole.wellFormed (h : Whole safe case cs) (hpercent : safe.contains '%' = false) :
    PercentCase.wellFormed safe case cs = true := by
  induction h with
  | nil => rfl
  | @safe c cs hc _ ih =>
    have hne : c ≠ '%' := by
      rintro rfl
      rw [hpercent] at hc
      cases hc
    rw [PercentCase.wellFormed, ih, hc]
    · simp [hne]
    · rintro _ _ _ rfl
      exact absurd rfl hne
  | escape hhigh hlow _ ih =>
    rw [PercentCase.wellFormed, hhigh, hlow, ih]
    rfl

theorem whole_unitsForm (bytes : Char → List UInt8) (us : List UInt16) :
    Whole safe case (unitsForm safe case bytes us) :=
  whole_flatMap fun i _ => whole_itemForm bytes i

end Whole

/-! ## What is read -/

section Reading

variable {safe : AsciiSet} (h : L.Faithful encoding) (case : HexCase)
  (hpercent : safe.contains '%' = false)

/-- The units as text, with a question mark for each surrogate without its partner. -/
def lossy (us : List UInt16) : List Char := (items us).map (·.charOr unpaired)

theorem lossy_units (cs : List Char) : lossy (Utf16.units cs) = cs := by
  rw [lossy, Utf16.items_units, List.map_map]
  exact List.map_id cs

include h hpercent

/-- **An item reads as the bytes of its character**, safe or not. -/
theorem unescape_itemForm_append (i : Item) (rest : List UInt8) :
    unescape (asciiBytes (itemForm safe case (L.bytesOf encoding) i) ++ rest)
      = (unescape rest).map (L.bytesOf encoding (i.charOr unpaired) ++ ·) := by
  cases i with
  | lone u => exact unescape_escape_append case _ rest
  | char c =>
    rw [itemForm, charForm]
    by_cases hsafe : safe.contains c
    · have hlt := AsciiSet.lt_of_contains hsafe
      rw [if_pos hsafe, Utf16.Item.charOr, h.ascii c hlt, ← byteForm_of_contains case hsafe]
      exact unescape_byteForm_append case hpercent _ rest
    · rw [if_neg hsafe]
      exact unescape_escape_append case _ rest

/-- **Units read as the bytes of their lossy text.** -/
theorem unescape_unitsForm (us : List UInt16) :
    unescape (Utf8.encode (unitsForm safe case (L.bytesOf encoding) us))
      = some ((lossy us).flatMap (L.bytesOf encoding)) := by
  have hwhole : Whole safe case (unitsForm safe case (L.bytesOf encoding) us) :=
    whole_unitsForm _ us
  rw [Utf8.encode_of_lt hwhole.lt, ← asciiBytes, unitsForm, lossy]
  induction items us with
  | nil => rfl
  | cons i is ih =>
    rw [List.flatMap_cons, asciiBytes, List.map_append, ← asciiBytes, ← asciiBytes,
      unescape_itemForm_append h case hpercent, ih]
    rfl

end Reading

/-- What is written for units, and what it reads as; the encoder can be used again. -/
theorem Encoder.Maps.reads {e : Encoder L} (hmaps : e.Maps (L.bytesOf encoding))
    (h : L.Faithful encoding) (hpercent : e.safe.contains '%' = false) (case : HexCase)
    (us : List UInt16) :
    ∃ out left, e.encodeUnits case us {} = (.ok (), { text := out }, left) ∧
      left.safe = e.safe ∧ left.Maps (L.bytesOf encoding) ∧ Whole e.safe case out.toList ∧
      PercentCase.bytesOf? out = some ((lossy us).flatMap (L.bytesOf encoding)) := by
  obtain ⟨left, hencode, hsafe, hleft⟩ := hmaps.encodeUnits case us ""
  rw [String.empty_append] at hencode
  refine ⟨_, left, hencode, hsafe, hleft, ?_, ?_⟩
  · rw [String.toList_ofList]
    exact whole_unitsForm _ us
  · rw [PercentCase.bytesOf?, String.toList_ofList]
    exact unescape_unitsForm h case hpercent us

/-- The text that was read is encoded to something that reads as the same bytes. -/
theorem Encoder.Maps.reads_again {e : Encoder L} (hmaps : e.Maps (L.bytesOf encoding))
    (h : L.Faithful encoding) (hpercent : e.safe.contains '%' = false) (case : HexCase)
    (cs : List Char) :
    ∃ again left, e.encode case (String.ofList (cs.map (L.shown encoding))) {}
        = (.ok (), { text := again }, left) ∧
      Whole e.safe case again.toList ∧
      PercentCase.bytesOf? again = some (cs.flatMap (L.bytesOf encoding)) := by
  obtain ⟨again, left, hencode, -, -, hwhole, hread⟩ :=
    hmaps.reads h hpercent case (Utf16.units (cs.map (L.shown encoding)))
  refine ⟨again, left, ?_, hwhole, ?_⟩
  · rw [Encoder.encode, String.toList_ofList]
    exact hencode
  · rw [hread, lossy_units, List.flatMap_map]
    simp only [h.bytesOf_shown]

/-! ## The check -/

section Check

variable (p : PercentCase)

theorem encoder_writes (hlabel : L.ofLabel? p.label = some encoding) :
    (p.encoder L).Writes encoding := by
  have htarget : (p.encoder L).target = .named p.label none :=
    Encoder.addSafes_target p.safeChars (.ofOptions { label := p.label })
  exact ⟨p.label, .inr ⟨htarget, hlabel⟩⟩

variable (L) in
theorem not_safe_percent : (p.encoder L).safe.contains '%' = false := by
  have husual : AsciiSet.unreserved.contains '%' = false := by decide +kernel
  have hextra : '%' ∉ p.safeChars := by
    intro hmem
    obtain ⟨b, hb, hchar⟩ := List.mem_map.1 hmem
    have hcode : b.toNat = 0x25 := (toNat_charOfByte b).symm.trans (congrArg Char.toNat hchar)
    have hpercent : b = 0x25 := UInt8.toNat_inj.1 hcode
    simp [hpercent] at hb
  have hsafe := Encoder.contains_addSafes (L := L) p.safeChars (.ofOptions { label := p.label }) '%'
  simp only [Encoder.ofOptions, husual, hextra, false_and, decide_false, Bool.or_self] at hsafe
  exact hsafe

variable (L) in
theorem safeAsExpected_eq_true : p.safeAsExpected L = true := by
  rw [PercentCase.safeAsExpected, List.all_eq_true]
  intro c _
  by_cases hc : c.toNat < 0x80
  · simp [Encoder.addSafe, AsciiSet.insert?, hc]
  · simp [Encoder.addSafe, AsciiSet.insert?, hc, Nat.le_of_not_lt hc]

variable {p}

theorem readsBack_of_faithful {e : Encoder L} (hmaps : e.Maps (L.bytesOf encoding))
    (h : L.Faithful encoding) (hpercent : e.safe.contains '%' = false)
    (hutf8 : encoding = L.utf8 → (lossy p.units).map (L.shown encoding) = lossy p.units) :
    p.readsBack L encoding ((lossy p.units).flatMap (L.bytesOf encoding)) e = true := by
  obtain ⟨again, left, hagain, -, hread⟩ := hmaps.reads_again h hpercent p.case (lossy p.units)
  rw [PercentCase.readsBack, h.decode, Bool.and_eq_true]
  refine ⟨?_, ?_⟩
  · by_cases hencoding : encoding = L.utf8
    · rw [hutf8 hencoding]
      simp [lossy, unpaired]
    · simp [hencoding]
  · rw [hagain]
    simp [hread]

/-- **The check passes** for faithful encodings that are written as such. -/
theorem holds_of_faithful (hlabel : L.ofLabel? p.label = some encoding)
    (hmaps : (p.encoder L).Maps (L.bytesOf encoding)) (h : L.Faithful encoding)
    (hutf8 : encoding = L.utf8 → (lossy p.units).map (L.shown encoding) = lossy p.units) :
    p.holds L = true := by
  have hpercent := not_safe_percent L p
  obtain ⟨out, left, hencode, hsafe, hleft, hwhole, hread⟩ := hmaps.reads h hpercent p.case p.units
  have hencoded : p.encoded L = (.ok out, left) := by rw [PercentCase.encoded, hencode]
  have hback := readsBack_of_faithful hleft h (hsafe ▸ hpercent) hutf8
  rw [PercentCase.holds, safeAsExpected_eq_true, hencoded, hlabel]
  simp only [hwhole.wellFormed hpercent, hread, hback, Bool.or_true, Bool.and_self]

end Check

/-- **What was percent-encoded reads back**, in UTF-8 and in any encoding of one byte a character.
Units are written as safe characters and whole escapes, which read as the bytes of the text with a
question mark for each surrogate without its partner. These bytes decode to what the encoding has of
that text; and this is encoded, by a new encoder or the one that was used, to something that reads
as the same bytes. -/
theorem percent_reads_back {L : EncodingLibrary} (p : PercentCase) {encoding : L.Encoding}
    (hlabel : L.ofLabel? p.label = some encoding)
    (hencoding : encoding = L.utf8 ∧ L.ReadsUtf8 ∨ L.SingleByte encoding ∧ L.Keeps encoding) :
    p.holds L = true ∧
      let bytes := (lossy p.units).flatMap (L.bytesOf encoding)
      let text := (lossy p.units).map (L.shown encoding)
      L.decodeWithoutMark encoding bytes = text ∧
      (encoding = L.utf8 → text = lossy p.units) ∧
      (p.encoder L).safe.contains '%' = false ∧
      ∃ out left, (p.encoder L).encodeUnits p.case p.units {} = (.ok (), { text := out }, left) ∧
        Whole (p.encoder L).safe p.case out.toList ∧ PercentCase.bytesOf? out = some bytes ∧
        ∀ e ∈ [p.encoder L, left], ∃ again left',
          e.encode p.case (String.ofList text) {} = (.ok (), { text := again }, left') ∧
            Whole (p.encoder L).safe p.case again.toList ∧
            PercentCase.bytesOf? again = some bytes := by
  have hwrites := encoder_writes p hlabel
  obtain ⟨hfaithful, houtput, hmaps⟩ : L.Faithful encoding ∧ L.output encoding = encoding ∧
      (p.encoder L).Maps (L.bytesOf encoding) := by
    obtain ⟨rfl, hutf8⟩ | ⟨hsingle, hkeeps⟩ := hencoding
    · refine ⟨hutf8.faithful, hutf8.output, ?_⟩
      rw [EncodingLibrary.bytesOf_utf8 hutf8.output]
      exact hwrites.maps_utf8 hutf8.output
    · exact ⟨hsingle.faithful, hsingle.output, hwrites.maps (hsingle.output.symm ▸ hkeeps)⟩
  have hutf8 : encoding = L.utf8 → (lossy p.units).map (L.shown encoding) = lossy p.units := by
    intro h
    rw [EncodingLibrary.shown_utf8 (houtput.trans h), List.map_id]
  have hpercent := not_safe_percent L p
  have hholds := holds_of_faithful hlabel hmaps hfaithful hutf8
  refine ⟨hholds, hfaithful.decode _, hutf8, hpercent, ?_⟩
  obtain ⟨out, left, hencode, hsafe, hleft, hwhole, hread⟩ :=
    hmaps.reads hfaithful hpercent p.case p.units
  refine ⟨out, left, hencode, hwhole, hread, ?_⟩
  intro e he
  have he : e.safe = (p.encoder L).safe ∧ e.Maps (L.bytesOf encoding) := by
    obtain rfl | rfl : e = p.encoder L ∨ e = left := by simpa using he
    · exact ⟨rfl, hmaps⟩
    · exact ⟨hsafe, hleft⟩
  rw [← he.1] at hpercent ⊢
  exact he.2.reads_again hfaithful hpercent p.case (lossy p.units)

/-- A question mark that is safe, a surrogate without its partner, a character that the encoding
lacks, and one that it has: the first three are written in two ways, and read as one. In UTF-8 the
third is not lacking. -/
theorem percent_reads_back_windows1252 :
    let p : PercentCase :=
      { units := [0x3F, 0xD83D, 0x4E16, 0xE9], extraSafe := [0x3F, 0x25, 0xE9],
        label := "windows-1252", case := .upper }
    let encoding : Encoding := .singleByte .windows1252
    let own : EncodingLibrary := .own
    (own.ofLabel? p.label = some encoding ∧ own.SingleByte encoding ∧ own.Keeps encoding) ∧
    p.holds .own = true ∧ (p.encoded .own).1 = .ok "?%3F%3F%E9" ∧
      PercentCase.bytesOf? "?%3F%3F%E9" = some [0x3F, 0x3F, 0x3F, 0xE9] ∧
      own.decodeWithoutMark encoding [0x3F, 0x3F, 0x3F, 0xE9] = "???é".toList ∧
      ((p.encoder .own).encodeToString p.case "???é").1 = "???%E9" ∧
      PercentCase.bytesOf? "???%E9" = some [0x3F, 0x3F, 0x3F, 0xE9] ∧
      (own.ReadsUtf8 ∧ PercentCase.holds .own { p with label := "utf-8" } = true) := by
  intro p encoding own
  have hlabel : EncodingLibrary.own.ofLabel? p.label = some encoding := by decide +kernel
  have hsingle := EncodingLibrary.own_singleByte .windows1252
  have hkeeps := EncodingLibrary.own_keeps encoding
  have hutf8 := EncodingLibrary.own_readsUtf8
  obtain ⟨hholds, hdecode, -, -, out, left, hencode, -, hread, hagain⟩ :=
    percent_reads_back (L := .own) p hlabel (.inr ⟨hsingle, hkeeps⟩)
  obtain ⟨again, left', hencode', -, hread'⟩ := hagain (p.encoder .own) List.mem_cons_self
  have hbytes : (lossy p.units).flatMap (EncodingLibrary.own.bytesOf encoding)
      = [0x3F, 0x3F, 0x3F, 0xE9] := by
    decide +kernel
  have htext : (lossy p.units).map (EncodingLibrary.own.shown encoding) = "???é".toList := by
    decide +kernel
  have hout : out = "?%3F%3F%E9" := by
    have hwritten : ((p.encoder .own).encodeUnits p.case p.units {}).2.1.text = "?%3F%3F%E9" := by
      decide +kernel
    rwa [hencode] at hwritten
  rw [htext, String.ofList_toList] at hencode'
  have hagain : again = "???%E9" := by
    have hwritten : ((p.encoder .own).encode p.case "???é" {}).2.1.text = "???%E9" := by
      decide +kernel
    rwa [hencode'] at hwritten
  rw [hbytes] at hdecode hread hread'
  subst hout hagain
  have hlabel' : EncodingLibrary.own.ofLabel? "utf-8" = some .utf8 := by decide +kernel
  refine ⟨⟨hlabel, hsingle, hkeeps⟩, hholds, ?_, hread, hdecode.trans htext, ?_, hread', hutf8, ?_⟩
  · rw [PercentCase.encoded, hencode]
  · rw [Encoder.encodeToString, hencode']
  · exact (percent_reads_back (L := .own) { p with label := "utf-8" } hlabel'
      (.inl ⟨rfl, hutf8⟩)).1

end CharStream.Percent
