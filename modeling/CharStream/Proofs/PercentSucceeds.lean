import CharStream.Proofs.OwnEncodings
import CharStream.Proofs.PercentHistory

/-!
# Encoding never fails

Where the encoders of a library keep what is relied on, every character gets at least one byte. So
every item gets at least one character, and whatever is encoded for a label that is known succeeds.
The empty string that stands for a failure then means that nothing was to be encoded, or that the
label is unknown.

* `Encoder.succeeds` — a target that has bytes for every character never fails.
* `encode_succeeds` — what follows for the labels of a library.
-/

namespace CharStream.Percent

open CharStream.Utf16 (Item items units unpaired)

variable {L : EncodingLibrary}

theorem Target.forget_of_label {target : Target L} {label : String}
    (h : target.label? = some label) : target.forget = .named label none := by
  cases target with
  | named label' resolved =>
    obtain rfl := Option.some.inj h
    rfl
  | custom encoder => cases h

/-- Whatever an encoder is given, it succeeds with the forms of the items, where `bytes` tells the
bytes of a character, and no form is empty. -/
def Encoder.Succeeds (e : Encoder L) (bytes : Char → List UInt8) : Prop :=
  ∀ case, (∀ i, itemForm e.safe case bytes i ≠ []) ∧
    (∀ us out, (e.encodeUnits case us { text := out }).1 = .ok () ∧
      (e.encodeUnits case us { text := out }).2.1
        = { text := out ++ String.ofList ((items us).flatMap (itemForm e.safe case bytes)) }) ∧
    ∀ text, (e.encodeToString case text).1 = "" ↔ text = ""

theorem itemForm_ne_nil {bytes : Char → List UInt8} (h : ∀ c, bytes c ≠ []) (safe : AsciiSet)
    (case : HexCase) (i : Item) : itemForm safe case bytes i ≠ [] := by
  have hescape (c : Char) : escape case (bytes c) ≠ [] := by
    obtain ⟨b, bs, hc⟩ := List.exists_cons_of_ne_nil (h c)
    rw [hc]
    exact List.cons_ne_nil _ _
  cases i with
  | lone u => exact hescape unpaired
  | char c =>
    rw [itemForm, charForm]
    split
    · exact List.cons_ne_nil _ _
    · exact hescape c

/-- **Each character has bytes**: then everything succeeds. -/
theorem Encoder.succeeds {e : Encoder L} {bytes : Char → List UInt8} (hmaps : e.Maps bytes)
    (hbytes : ∀ c, bytes c ≠ []) : e.Succeeds bytes := by
  intro case
  have hform : ∀ i, itemForm e.safe case bytes i ≠ [] := itemForm_ne_nil hbytes e.safe case
  refine ⟨hform, ?_, ?_⟩
  · intro us out
    obtain ⟨_, hencode, -⟩ := hmaps.encodeUnits case us out
    rw [hencode]
    exact ⟨rfl, rfl⟩
  · intro text
    obtain ⟨_, hencode, -⟩ := hmaps.encodeToString case text
    rw [hencode, ← String.toList_inj, ← String.toList_inj, String.toList_ofList]
    cases text.toList with
    | nil => simp
    | cons c cs =>
      have hc : charForm e.safe case bytes c ≠ [] := hform (.char c)
      simp [hc]

/-- **Encoding never fails** where the encoders of the library keep what is relied on. A character
is written in one to sixteen bytes, and in a question mark if the encoding lacks it; so every item
is written in at least one character. After any calls, the empty string stands for the empty text or
for an unknown label. -/
theorem encode_succeeds {L : EncodingLibrary} (hkeeps : ∀ encoding, L.Keeps (L.output encoding)) :
    (∀ encoding c before,
      (CharEncoder.ofEncoding L encoding).encode c before
          = (.ok (), before ++ L.bytesOf encoding c) ∧
        1 ≤ (L.bytesOf encoding c).length ∧ (L.bytesOf encoding c).length ≤ 16 ∧
        (L.output encoding ≠ L.utf8 → ∀ d, (L.first (L.output encoding) c).1 = .unmappable d →
          L.bytesOf encoding c = [0x3F])) ∧
      (∀ (e : Encoder L) encoding target,
        e.target.encoder = (.ok (.ofEncoding L encoding), target) →
          e.Succeeds (L.bytesOf encoding)) ∧
      ∀ (start : Start) calls,
        let e : Encoder L := start.encoder.after calls
        ∀ label, e.target.label? = some label →
        (∀ encoding, L.ofLabel? label = some encoding →
          e.target.encoder = (.ok (.ofEncoding L encoding), .named label (some encoding)) ∧
            e.Succeeds (L.bytesOf encoding)) ∧
        ∀ case text, (e.encodeToString case text).1 = "" ↔
          text = "" ∨ L.ofLabel? label = none := by
  have hsucceeds (e : Encoder L) (encoding : L.Encoding) (target : Target L)
      (htarget : e.target.encoder = (.ok (.ofEncoding L encoding), target)) :
      e.Succeeds (L.bytesOf encoding) := by
    refine Encoder.succeeds ⟨_, target, htarget, ?_⟩ ?_
    · intro c
      exact EncodingLibrary.ofEncoding_encode (hkeeps encoding) c []
    · intro c
      exact List.length_pos_iff.1 (EncodingLibrary.length_bytesOf (hkeeps encoding) c).1
  refine ⟨?_, hsucceeds, ?_⟩
  · intro encoding c before
    obtain ⟨hpos, hle⟩ := EncodingLibrary.length_bytesOf (hkeeps encoding) c
    refine ⟨EncodingLibrary.ofEncoding_encode (hkeeps encoding) c before, hpos, hle, ?_⟩
    intro hutf8 d hd
    exact EncodingLibrary.bytesOf_unmappable hutf8 hd
  · intro start calls e label hlabel
    have hsound : e.Sound := start.sound.after calls
    have hknown {encoding : L.Encoding} (h : L.ofLabel? label = some encoding) :
        e.target.encoder = (.ok (.ofEncoding L encoding), .named label (some encoding)) := by
      rw [← hsound.encoder_forget, Target.forget_of_label hlabel]
      simp [Target.encoder, resolve, h]
    refine ⟨?_, ?_⟩
    · intro encoding h
      exact ⟨hknown h, hsucceeds e encoding _ (hknown h)⟩
    · intro case text
      cases h : L.ofLabel? label with
      | none =>
        have htarget : e.target = .named label none := hsound.unknown hlabel h
        simp [Encoder.encodeToString, encode_unknown htarget h]
      | some encoding =>
        obtain ⟨-, -, hempty⟩ := hsucceeds e encoding _ (hknown h) case
        simp [hempty text]

/-- A character with a shift before and behind it, and one that the encoding lacks, after a call
that failed for want of room. -/
theorem encode_succeeds_shifted :
    let start : Start := .ofOptions { label := "iso-2022-jp" }
    let e : Encoder .own := start.encoder.after [.encode .upper "a世" { room := some 4 }]
    let us : List UInt16 := [0x61, 0x4E16, 0xD83D, 0xDE00, 0xD800]
    ((∀ encoding, EncodingLibrary.own.Keeps (EncodingLibrary.own.output encoding)) ∧
      e.target.label? = some "iso-2022-jp" ∧
      EncodingLibrary.own.ofLabel? "iso-2022-jp" = some .iso2022Jp) ∧
      (CharEncoder.ofEncoding .own .iso2022Jp).encode '😀' [1] = (.ok (), [1, 0x3F]) ∧
      (e.encodeUnits .lower us {}).1 = .ok () ∧
      (e.encodeUnits .lower us {}).2.1.text = "a%1b%24%42%40%24%1b%28%42%3f%3f" ∧
      (e.encodeToString .upper "😀").1 ≠ "" := by
  intro start e us
  have hkeeps (encoding) : EncodingLibrary.own.Keeps (EncodingLibrary.own.output encoding) :=
    EncodingLibrary.own_keeps _
  have hlabel : e.target.label? = some "iso-2022-jp" := by decide +kernel
  have hknown : EncodingLibrary.own.ofLabel? "iso-2022-jp" = some .iso2022Jp := by decide +kernel
  have hlacks : (EncodingLibrary.own.first .iso2022Jp '😀').1 = .unmappable '😀' := by
    decide +kernel
  obtain ⟨hchar, -, hcalls⟩ := encode_succeeds hkeeps
  obtain ⟨hencode, -, -, hbytes⟩ := hchar .iso2022Jp '😀' [1]
  obtain ⟨hsucceeds, hempty⟩ := hcalls start _ "iso-2022-jp" hlabel
  obtain ⟨-, hunits, -⟩ := (hsucceeds .iso2022Jp hknown).2 .lower
  obtain ⟨hok, hsink⟩ := hunits us ""
  refine ⟨⟨hkeeps, hlabel, hknown⟩, ?_, hok, ?_, ?_⟩
  · rw [hencode, hbytes (by decide) '😀' hlacks]
    rfl
  · show (e.encodeUnits .lower us { text := "" }).2.1.text = _
    rw [hsink]
    decide +kernel
  · rw [Ne, hempty .upper "😀", hknown]
    decide

end CharStream.Percent
