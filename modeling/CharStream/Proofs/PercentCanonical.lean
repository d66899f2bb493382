import CharStream.Proofs.PercentText

/-!
# Percent-encoded UTF-8 and its canonical form

Where the bytes of a character are its UTF-8, a text is encoded byte by byte: a byte that is a safe
character stays one, and any other is a triplet. If the percent sign is not safe, triplets cannot be
mistaken for safe characters, so the bytes can be read back.

`Canonical` says which texts are made of safe characters and triplets, none of which stands for a
safe character. These are the texts that some bytes are written as (`canonical_iff`), and only one
of them has a given reading.

Main results: `encode_utf8_bijective`, that encoding is a bijection between all texts and the
canonical texts that read as the UTF-8 of some text.
-/

namespace CharStream.Percent

open CharStream.Encoding

/-! ## Canonical texts -/

/-- Safe characters, and triplets with digits of the case that stand for no safe character. -/
inductive Canonical (safe : AsciiSet) (case : HexCase) : List Char → Prop where
  | nil : Canonical safe case []
  | safe {c : Char} {cs : List Char} (hc : safe.contains c = true)
      (hcs : Canonical safe case cs) : Canonical safe case (c :: cs)
  | triplet {high low : Char} {h l : Nat} {cs : List Char} (hhigh : case.isDigit high = true)
      (hlow : case.isDigit low = true) (hh : Text.hexValue? high = some h)
      (hl : Text.hexValue? low = some l) (hsafe : safe.has (h * 16 + l) = false)
      (hcs : Canonical safe case cs) : Canonical safe case ('%' :: high :: low :: cs)

section Bytes

variable (safe : AsciiSet) (case : HexCase)

/-- The form of a byte: the safe character that it is, and its escape otherwise. -/
def byteForm (b : UInt8) : List Char :=
  if safe.has b.toNat then [Char.ofNat b.toNat] else escapeByte case b

variable {safe}

theorem toNat_charOfByte (b : UInt8) : (Char.ofNat b.toNat).toNat = b.toNat := by
  have hb := b.toNat_lt
  have hvalid : b.toNat.isValidChar := .inl (by omega)
  exact Utf16.toNat_ofNat_of_valid hvalid

theorem lt_of_mem_byteForm {b : UInt8} {c : Char} (hc : c ∈ byteForm safe case b) :
    c.toNat < 0x80 := by
  have hb := b.toNat_lt
  have hdigit : ∀ n < 16, (case.digit n).toNat < 0x80 := by cases case <;> decide
  rw [byteForm] at hc
  split at hc
  · next hsafe =>
    obtain rfl := List.mem_singleton.1 hc
    rw [toNat_charOfByte]
    exact AsciiSet.lt_of_has hsafe
  · obtain rfl | rfl | rfl := by
      simpa only [escapeByte, List.mem_cons, List.not_mem_nil, or_false] using hc
    · decide
    · exact hdigit _ (by omega)
    · exact hdigit _ (by omega)

/-! ## From characters to bytes -/

theorem charForm_utf8 (c : Char) : charForm safe case String.utf8EncodeChar c
    = (String.utf8EncodeChar c).flatMap (byteForm safe case) := by
  by_cases hc : c.toNat < 0x80
  · have hn : c.toNat.toUInt8.toNat = c.toNat := by simp; omega
    rw [charForm, Utf8.encodeChar_of_lt hc, AsciiSet.contains_eq_has, List.flatMap_cons, byteForm,
      hn, Char.ofNat_toNat]
    by_cases hsafe : safe.has c.toNat
    · rw [if_pos hsafe, if_pos hsafe]
      rfl
    · rw [if_neg hsafe, if_neg hsafe]
      rfl
  · have hc : 0x80 ≤ c.toNat := Nat.le_of_not_lt hc
    have hbytes : ∀ b ∈ String.utf8EncodeChar c, byteForm safe case b = escapeByte case b := by
      intro b hb
      have hb := AsciiSet.has_of_le (Utf8.le_of_mem_encodeChar hc hb) safe
      rw [byteForm, hb]
      rfl
    rw [charForm, AsciiSet.contains_eq_has, AsciiSet.has_of_le hc, List.flatMap_def,
      List.map_congr_left hbytes, ← List.flatMap_def]
    rfl

theorem flatMap_charForm_utf8 (cs : List Char) :
    cs.flatMap (charForm safe case String.utf8EncodeChar)
      = (Utf8.encode cs).flatMap (byteForm safe case) := by
  rw [Utf8.encode, List.flatMap_assoc]
  congr 1
  funext c
  exact charForm_utf8 case c

/-! ## Reading back -/

theorem unescape_byteForm_append (hpercent : safe.contains '%' = false) (b : UInt8)
    (rest : List UInt8) :
    unescape (asciiBytes (byteForm safe case b) ++ rest) = (unescape rest).map (b :: ·) := by
  rw [byteForm]
  split
  · next hsafe =>
    have hb : b ≠ 0x25 := by
      rintro rfl
      exact Bool.false_ne_true (hpercent.symm.trans hsafe)
    have hbyte : asciiBytes [Char.ofNat b.toNat] = [b] := by
      rw [asciiBytes, List.map_singleton, toNat_charOfByte]
      simp
    rw [hbyte]
    exact unescape_cons_of_ne hb rest
  · have hread := unescape_escape_append case [b] rest
    rw [escape, List.flatMap_singleton] at hread
    exact hread

/-- **What bytes are written as reads as the bytes**, unless the percent sign is safe. -/
theorem unescape_flatMap_byteForm (hpercent : safe.contains '%' = false) (bytes : List UInt8) :
    unescape (Utf8.encode (bytes.flatMap (byteForm safe case))) = some bytes := by
  have hascii : ∀ c ∈ bytes.flatMap (byteForm safe case), c.toNat < 0x80 := by
    intro c hc
    obtain ⟨b, -, hc⟩ := List.mem_flatMap.1 hc
    exact lt_of_mem_byteForm case hc
  rw [Utf8.encode_of_lt hascii, ← asciiBytes]
  clear hascii
  induction bytes with
  | nil => rfl
  | cons b bs ih =>
    rw [List.flatMap_cons, asciiBytes, List.map_append, ← asciiBytes, ← asciiBytes,
      unescape_byteForm_append case hpercent, ih]
    rfl

/-! ## What bytes are written as -/

theorem byteForm_of_contains {c : Char} (h : safe.contains c = true) :
    byteForm safe case c.toNat.toUInt8 = [c] := by
  rw [AsciiSet.contains_eq_has] at h
  have hlt := AsciiSet.lt_of_has h
  have hn : c.toNat.toUInt8.toNat = c.toNat := by
    simp
    omega
  rw [byteForm, hn, if_pos h, Char.ofNat_toNat]

theorem byteForm_of_digits {h l : Nat} (hh : h < 16) (hl : l < 16)
    (hsafe : safe.has (h * 16 + l) = false) :
    byteForm safe case (h * 16 + l).toUInt8 = ['%', case.digit h, case.digit l] := by
  have hn : (h * 16 + l).toUInt8.toNat = h * 16 + l := by
    simp
    omega
  have hhigh : (h * 16 + l) / 16 = h := by omega
  have hlow : (h * 16 + l) % 16 = l := by omega
  rw [byteForm, hn, hsafe, escapeByte, hn, hhigh, hlow]
  rfl

/-- **The canonical texts** are those that bytes are written as. -/
theorem canonical_iff {cs : List Char} :
    Canonical safe case cs ↔ ∃ bytes : List UInt8, bytes.flatMap (byteForm safe case) = cs := by
  constructor
  · intro h
    induction h with
    | nil => exact ⟨[], rfl⟩
    | @safe c cs hc _ ih =>
      obtain ⟨bytes, rfl⟩ := ih
      refine ⟨c.toNat.toUInt8 :: bytes, ?_⟩
      rw [List.flatMap_cons, byteForm_of_contains case hc]
      rfl
    | @triplet high low h l cs hhigh hlow hh hl hsafe _ ih =>
      obtain ⟨bytes, rfl⟩ := ih
      obtain ⟨hh16, rfl⟩ := HexCase.digit_of_hexValue? hhigh hh
      obtain ⟨hl16, rfl⟩ := HexCase.digit_of_hexValue? hlow hl
      refine ⟨(h * 16 + l).toUInt8 :: bytes, ?_⟩
      rw [List.flatMap_cons, byteForm_of_digits case hh16 hl16 hsafe]
      rfl
  · rintro ⟨bytes, rfl⟩
    induction bytes with
    | nil => exact .nil
    | cons b bs ih =>
      have hb := b.toNat_lt
      rw [List.flatMap_cons, byteForm]
      by_cases hsafe : safe.has b.toNat
      · have hcontains : safe.contains (Char.ofNat b.toNat) = true := by
          rw [AsciiSet.contains_eq_has, toNat_charOfByte]
          exact hsafe
        rw [if_pos hsafe]
        exact .safe hcontains ih
      · obtain ⟨hhigh, hh⟩ := case.isDigit_digit (b.toNat / 16) (by omega)
        obtain ⟨hlow, hl⟩ := case.isDigit_digit (b.toNat % 16) (by omega)
        rw [if_neg hsafe]
        refine .triplet hhigh hlow hh hl ?_ ih
        rw [Nat.mul_comm, Nat.div_add_mod]
        simpa using hsafe

/-! ## Texts -/

variable (safe) in
/-- The form of a text: that of its UTF-8. -/
def utf8Form (text : String) : String :=
  String.ofList ((Utf8.encode text.toList).flatMap (byteForm safe case))

theorem canonical_utf8Form (text : String) :
    Canonical safe case (utf8Form safe case text).toList := by
  rw [utf8Form, String.toList_ofList]
  exact (canonical_iff case).2 ⟨_, rfl⟩

theorem unescape_utf8Form (hpercent : safe.contains '%' = false) (text : String) :
    unescape (Utf8.encode (utf8Form safe case text).toList) = some (Utf8.encode text.toList) := by
  rw [utf8Form, String.toList_ofList]
  exact unescape_flatMap_byteForm case hpercent _

/-- A canonical text has one reading, and is the form of what it reads as. -/
theorem utf8Form_of_unescape (hpercent : safe.contains '%' = false) {out text : String}
    (hout : Canonical safe case out.toList)
    (hread : unescape (Utf8.encode out.toList) = some (Utf8.encode text.toList)) :
    utf8Form safe case text = out := by
  obtain ⟨bytes, hbytes⟩ := (canonical_iff case).1 hout
  have hreading := unescape_flatMap_byteForm case hpercent bytes
  rw [hbytes, hread] at hreading
  rw [utf8Form, Option.some.inj hreading, hbytes, String.ofList_toList]

theorem utf8Form_injective (hpercent : safe.contains '%' = false) :
    Function.Injective (utf8Form safe case) := by
  intro s t h
  have hs := unescape_utf8Form case hpercent s
  have ht := unescape_utf8Form case hpercent t
  rw [h, ht] at hs
  exact String.toList_inj.1 (Utf8.encode_injective (Option.some.inj hs)).symm

end Bytes

/-! ## The encoder -/

namespace Encoder

variable {L : EncodingLibrary}

/-- The encoder writes UTF-8: its target has a label of UTF-8, or of an encoding that UTF-8 stands
in for, or it is the character encoder of UTF-8. -/
def WritesUtf8 (e : Encoder L) : Prop :=
  (∃ encoding, L.output encoding = L.utf8 ∧ e.Writes encoding) ∨ e.target = .custom .utf8

theorem writesUtf8_ofOptions {label : String} (h : (L.ofLabel? label).map L.output = some L.utf8) :
    (ofOptions { label } : Encoder L).WritesUtf8 := by
  obtain ⟨encoding, hlabel, houtput⟩ := Option.map_eq_some_iff.1 h
  exact .inl ⟨encoding, houtput, label, .inr ⟨rfl, hlabel⟩⟩

example : ∀ label ∈ ["utf-8", "utf-16le", "utf-16be", "replacement"],
    (EncodingLibrary.own.ofLabel? label).map EncodingLibrary.own.output = some .utf8 := by
  decide +kernel

theorem WritesUtf8.maps {e : Encoder L} (h : e.WritesUtf8) : e.Maps String.utf8EncodeChar := by
  obtain ⟨encoding, houtput, hwrites⟩ | htarget := h
  · exact hwrites.maps_utf8 houtput
  · exact ⟨.utf8, .custom .utf8, by rw [htarget]; rfl, fun _ => rfl⟩

/-- Makes characters safe, but for those that cannot be. -/
def addSafes (cs : List Char) (e : Encoder L) : Encoder L := cs.foldl (fun e c => (e.addSafe c).2) e

theorem addSafe_target (c : Char) (e : Encoder L) : (e.addSafe c).2.target = e.target := by
  unfold addSafe
  split
  · rfl
  · rfl

theorem contains_addSafe (c : Char) (e : Encoder L) (d : Char) :
    (e.addSafe c).2.safe.contains d = (e.safe.contains d || decide (d = c ∧ c.toNat < 0x80)) := by
  by_cases hc : c.toNat < 0x80
  · have hinsert : e.safe.insert? c = some (e.safe.withByte c.toNat.toUInt8) := if_pos hc
    rw [addSafe, hinsert]
    simp [AsciiSet.contains_insert hinsert, hc]
  · have hinsert : e.safe.insert? c = none := if_neg hc
    rw [addSafe, hinsert]
    simp [hc]

theorem addSafes_target (cs : List Char) (e : Encoder L) : (e.addSafes cs).target = e.target := by
  induction cs generalizing e with
  | nil => rfl
  | cons c cs ih => exact (ih _).trans (addSafe_target c e)

theorem WritesUtf8.addSafes {e : Encoder L} (h : e.WritesUtf8) (cs : List Char) :
    (e.addSafes cs).WritesUtf8 := by
  unfold WritesUtf8 Writes
  rw [addSafes_target]
  exact h

theorem contains_addSafes (cs : List Char) (e : Encoder L) (d : Char) :
    (e.addSafes cs).safe.contains d
      = (e.safe.contains d || decide (d ∈ cs ∧ d.toNat < 0x80)) := by
  induction cs generalizing e with
  | nil => simp [addSafes]
  | cons c cs ih =>
    rw [addSafes, List.foldl_cons, ← addSafes, ih, contains_addSafe, Bool.or_assoc]
    congr 1
    rw [Bool.eq_iff_iff]
    simp only [Bool.or_eq_true, decide_eq_true_eq, List.mem_cons]
    constructor
    · rintro (⟨rfl, hc⟩ | ⟨hd, hc⟩)
      · exact ⟨.inl rfl, hc⟩
      · exact ⟨.inr hd, hc⟩
    · rintro ⟨rfl | hd, hc⟩
      · exact .inl ⟨rfl, hc⟩
      · exact .inr ⟨hd, hc⟩

end Encoder

/-- **Encoding to UTF-8 is a bijection** between texts and canonical texts. Let an encoder write
UTF-8, its safe characters be the usual ones and any others but the percent sign. No text is
refused. What a text is encoded to reads as its UTF-8, so no two texts are encoded alike; and a
canonical text that reads as the UTF-8 of a text is what that text is encoded to. -/
theorem encode_utf8_bijective {L : EncodingLibrary} {e : Encoder L} (hwrites : e.WritesUtf8)
    (hsafe : e.safe = .unreserved) {extra : List Char} (hextra : '%' ∉ extra) (case : HexCase) :
    let e := e.addSafes extra
    let encoded (text : String) : String := (e.encodeToString case text).1
    let read (out : String) : Option (List UInt8) := unescape (Utf8.encode out.toList)
    (∀ text, (e.encode case text {}).1 = .ok ()) ∧
      (∀ text, read (encoded text) = some (Utf8.encode text.toList)) ∧
      (∀ out text, Canonical e.safe case out.toList → read out = some (Utf8.encode text.toList) →
        encoded text = out) ∧
      Function.Injective encoded ∧
      ∀ out, (∃ text, encoded text = out) ↔
        Canonical e.safe case out.toList ∧
          ∃ text : String, read out = some (Utf8.encode text.toList) := by
  intro e encoded read
  have hpercent : e.safe.contains '%' = false := by
    have husual : AsciiSet.unreserved.contains '%' = false := by decide +kernel
    rw [Encoder.contains_addSafes, hsafe, husual]
    simp [hextra]
  have hencode (text : String) : (e.encode case text {}).1 = .ok () ∧
      encoded text = utf8Form e.safe case text := by
    obtain ⟨e', hencode, -⟩ := (hwrites.addSafes extra).maps.encode case text
    rw [flatMap_charForm_utf8] at hencode
    refine ⟨?_, ?_⟩
    · rw [hencode]
    · show (e.encodeToString case text).1 = _
      rw [Encoder.encodeToString, hencode]
      rfl
  have hencoded : encoded = utf8Form e.safe case := by
    funext text
    exact (hencode text).2
  rw [hencoded]
  refine ⟨fun text => (hencode text).1, unescape_utf8Form case hpercent, ?_,
    utf8Form_injective case hpercent, ?_⟩
  · intro out text
    exact utf8Form_of_unescape case hpercent
  · intro out
    constructor
    · rintro ⟨text, rfl⟩
      exact ⟨canonical_utf8Form case text, text, unescape_utf8Form case hpercent text⟩
    · rintro ⟨hout, text, hread⟩
      exact ⟨text, utf8Form_of_unescape case hpercent hout hread⟩

/-- A slash that was made safe, a character of two bytes, and the percent sign; and a triplet that
stands for a safe character, which nothing is encoded to. -/
theorem encode_utf8_bijective_slash :
    let e : Encoder .own := .ofOptions { label := "utf-16le" }
    let extra := ['/', 'é']
    let encoded (text : String) : String := ((e.addSafes extra).encodeToString .upper text).1
    e.WritesUtf8 ∧ e.safe = .unreserved ∧ '%' ∉ extra ∧
      unescape (Utf8.encode (encoded "a/é%").toList) = some (Utf8.encode "a/é%".toList) ∧
      encoded "a/é%" = "a/%C3%A9%25" ∧ ∀ text, encoded text ≠ "%2F" := by
  intro e extra encoded
  have hwrites : e.WritesUtf8 := Encoder.writesUtf8_ofOptions (by decide +kernel)
  have hextra : '%' ∉ extra := by decide
  obtain ⟨-, hread, hform, -, hencoded⟩ := encode_utf8_bijective hwrites rfl hextra .upper
  refine ⟨hwrites, rfl, hextra, hread "a/é%", ?_, ?_⟩
  · have hcanonical : Canonical (e.addSafes extra).safe .upper "a/%C3%A9%25".toList :=
      (canonical_iff .upper).2 ⟨Utf8.encode "a/é%".toList, by decide +kernel⟩
    exact hform "a/%C3%A9%25" "a/é%" hcanonical (by decide +kernel)
  · intro text htext
    obtain ⟨hcanonical, -⟩ := (hencoded "%2F").1 ⟨text, htext⟩
    have hsplit : "%2F".toList = ['%', '2', 'F'] := rfl
    rw [hsplit] at hcanonical
    cases hcanonical with
    | safe hc _ => exact absurd hc (by decide +kernel)
    | triplet _ _ hh hl hsafe _ =>
      obtain rfl := Option.some.inj hh
      obtain rfl := Option.some.inj hl
      exact absurd hsafe (by decide +kernel)

end CharStream.Percent
