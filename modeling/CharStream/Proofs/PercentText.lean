import CharStream.Proofs.EncodedChar
import CharStream.Proofs.PercentItems

/-!
# Percent-encoding to an encoding

Where the target has bytes for every character, a text is encoded character by character: a safe one
is itself, and any other is the escapes of its bytes. An encoder whose label is known has such a
target, and one whose label is unknown fails.

* `Maps.encodeUnits`, `Maps.encodeToString` — what is written for units, and for a text.
* `Writes.maps` — the target of a known label has bytes for every character.
* `encodeUnits_unknown` — the target of an unknown label has nothing.
-/

namespace CharStream.Percent

open CharStream.Utf16 (items)

variable {L : EncodingLibrary}

/-! ## Targets that refuse nothing -/

/-- What units are written as. -/
def unitsForm (safe : AsciiSet) (case : HexCase) (bytes : Char → List UInt8) (us : List UInt16) :
    List Char :=
  (items us).flatMap (itemForm safe case bytes)

theorem unitsForm_units (safe : AsciiSet) (case : HexCase) (bytes : Char → List UInt8)
    (cs : List Char) :
    unitsForm safe case bytes (Utf16.units cs) = cs.flatMap (charForm safe case bytes) := by
  rw [unitsForm, Utf16.items_units, List.flatMap_map]
  rfl

theorem Target.encoder_again {t target : Target L} {encoder : CharEncoder}
    (h : t.encoder = (.ok encoder, target)) : target.encoder = (.ok encoder, target) := by
  cases t with
  | custom encoder' =>
    obtain ⟨-, rfl⟩ := Prod.mk.inj h
    exact h
  | named label resolved =>
    cases resolved with
    | some encoding =>
      obtain ⟨-, rfl⟩ := Prod.mk.inj h
      exact h
    | none =>
      rw [Target.encoder] at h
      cases hlabel : resolve L label with
      | error err =>
        rw [hlabel] at h
        cases h
      | ok encoding =>
        rw [hlabel] at h
        cases h
        rfl

namespace Encoder

/-- The target has bytes for every character, and `bytes` tells which. -/
def Maps (e : Encoder L) (bytes : Char → List UInt8) : Prop :=
  ∃ encoder target, e.target.encoder = (.ok encoder, target) ∧
    ∀ c, encoder.encode c [] = (.ok (), bytes c)

variable {e : Encoder L} {bytes : Char → List UInt8}

/-- **The form of units** is written, and the encoder can be used again. -/
theorem Maps.encodeUnits (h : e.Maps bytes) (case : HexCase) (us : List UInt16) (out : String) :
    ∃ e', e.encodeUnits case us { text := out }
        = (.ok (), { text := out ++ String.ofList (unitsForm e.safe case bytes us) }, e') ∧
      e'.safe = e.safe ∧ e'.Maps bytes := by
  obtain ⟨encoder, target, htarget, hencode⟩ := h
  have haccepts : ∀ i ∈ items us, Accepts e.safe encoder bytes i := fun _ _ c _ => hencode c
  exact ⟨_, encodeUnits_accepted htarget case haccepts out, rfl, encoder, target,
    Target.encoder_again htarget, hencode⟩

theorem Maps.encode (h : e.Maps bytes) (case : HexCase) (text : String) :
    ∃ e', e.encode case text {}
        = (.ok (), { text := String.ofList (text.toList.flatMap (charForm e.safe case bytes)) },
          e') ∧
      e'.safe = e.safe ∧ e'.Maps bytes := by
  obtain ⟨e', hencode, hleft⟩ := h.encodeUnits case (Utf16.units text.toList) ""
  rw [unitsForm_units, String.empty_append] at hencode
  exact ⟨e', hencode, hleft⟩

theorem Maps.encodeToString (h : e.Maps bytes) (case : HexCase) (text : String) :
    ∃ e', e.encodeToString case text
        = (String.ofList (text.toList.flatMap (charForm e.safe case bytes)), e') ∧
      e'.safe = e.safe ∧ e'.Maps bytes := by
  obtain ⟨e', hencode, hleft⟩ := h.encode case text
  refine ⟨e', ?_, hleft⟩
  rw [Encoder.encodeToString, hencode]

/-! ## Labels -/

/-- The encoder writes in `encoding`: its label says so, looked up or not. -/
def Writes (e : Encoder L) (encoding : L.Encoding) : Prop :=
  ∃ label, e.target = .named label (some encoding) ∨
    e.target = .named label none ∧ L.ofLabel? label = some encoding

variable {encoding : L.Encoding}

theorem Writes.encoder (h : e.Writes encoding) :
    ∃ target, e.target.encoder = (.ok (.ofEncoding L encoding), target) := by
  obtain ⟨label, htarget | ⟨htarget, hlabel⟩⟩ := h
  · exact ⟨_, by rw [htarget]; rfl⟩
  · exact ⟨.named label (some encoding), by simp [htarget, Target.encoder, resolve, hlabel]⟩

theorem Writes.maps (hkeeps : L.Keeps (L.output encoding)) (h : e.Writes encoding) :
    e.Maps (L.bytesOf encoding) := by
  obtain ⟨target, htarget⟩ := h.encoder
  exact ⟨_, target, htarget, fun c => EncodingLibrary.ofEncoding_encode hkeeps c []⟩

theorem Writes.maps_utf8 (hutf8 : L.output encoding = L.utf8) (h : e.Writes encoding) :
    e.Maps String.utf8EncodeChar := by
  obtain ⟨target, htarget⟩ := h.encoder
  exact ⟨_, target, htarget, fun c => EncodingLibrary.ofEncoding_encode_utf8 hutf8 c []⟩

end Encoder

/-- **An unknown target** fails before anything is written, even if nothing is to be written. -/
theorem encodeUnits_unknown {e : Encoder L} {label : String} (h : e.target = .named label none)
    (hlabel : L.ofLabel? label = none) (case : HexCase) (us : List UInt16) (sink : Sink) :
    e.encodeUnits case us sink = (.error (.unknownLabel label), sink, e) := by
  have hencoder : e.target.encoder = (.error (.unknownLabel label), .named label none) := by
    rw [h]
    simp [Target.encoder, resolve, hlabel]
  rw [Encoder.encodeUnits, hencoder, ← h]

theorem encode_unknown {e : Encoder L} {label : String} (h : e.target = .named label none)
    (hlabel : L.ofLabel? label = none) (case : HexCase) (text : String) (sink : Sink) :
    e.encode case text sink = (.error (.unknownLabel label), sink, e) :=
  encodeUnits_unknown h hlabel case _ sink

end CharStream.Percent
