import CharStream.Proofs.EncodingLibrary

/-!
# One character in an encoding

`CharEncoder.ofEncoding` has three exits for failures. None of them can be taken where the library
`Keeps` what is relied on: a new encoder that gets one character has room enough in the window, and
if its encoding lacks the character, it has written nothing, so there is nothing to end, and the
question mark fits.

* `ofEncoding_encode`, `ofEncoding_encode_utf8` — the outcome for one character.
* `length_bytesOf` — how many bytes it has.
-/

namespace CharStream.EncodingLibrary

variable {L : EncodingLibrary} {encoding : L.Encoding}

/-- The bytes of a character: what a new encoder writes, and a question mark if the encoding lacks
the character. -/
def bytesOf (L : EncodingLibrary) (encoding : L.Encoding) (c : Char) : List UInt8 :=
  if L.output encoding = L.utf8 then String.utf8EncodeChar c
  else
    match L.first (L.output encoding) c with
    | (.inputEmpty, written, _) => written
    | _ => [questionMark]

theorem bytesOf_utf8 (h : L.output encoding = L.utf8) :
    L.bytesOf encoding = String.utf8EncodeChar := by
  funext c
  rw [bytesOf, if_pos h]

theorem bytesOf_of_ne_utf8 (h : L.output encoding ≠ L.utf8) (c : Char) :
    L.bytesOf encoding c = if (L.first (L.output encoding) c).1 = .inputEmpty then
        (L.first (L.output encoding) c).2.1
      else [questionMark] := by
  rw [bytesOf, if_neg h]
  rcases L.first (L.output encoding) c with ⟨_ | _ | _, written, k⟩ <;> rfl

theorem bytesOf_unmappable (hutf8 : L.output encoding ≠ L.utf8) {c d : Char}
    (h : (L.first (L.output encoding) c).1 = .unmappable d) :
    L.bytesOf encoding c = [questionMark] := by
  rw [bytesOf_of_ne_utf8 hutf8, h]
  rfl

theorem Keeps.encodeInto (h : L.Keeps encoding) (c : Char) :
    L.encodeInto c (L.newEncoder encoding)
      = .ok (match L.first encoding c with
          | (.inputEmpty, written, _) => written
          | _ => [questionMark]) := by
  have hfits := h.fits c
  have hlacks := h.lacks c
  have hends := h.ends c
  rw [EncodingLibrary.encodeInto]
  rcases hfirst : L.first encoding c with ⟨stop, written, k⟩
  rw [hfirst] at hfits hlacks hends
  rw [first] at hfirst
  rw [hfirst]
  cases stop with
  | inputEmpty => rfl
  | outputFull => exact absurd rfl hfits
  | unmappable d =>
    obtain rfl : written = [] := hlacks d rfl
    obtain ⟨hempty, hflushed⟩ := hends d rfl
    dsimp only [List.length_nil, Nat.sub_zero]
    rcases hend : L.encode [] window k with ⟨stop, flushed, k'⟩
    rw [hend] at hempty hflushed
    obtain rfl : stop = .inputEmpty := hempty
    obtain rfl : flushed = [] := hflushed
    rfl

theorem ofEncoding_encode_utf8 (h : L.output encoding = L.utf8) (c : Char) (bytes : List UInt8) :
    (CharEncoder.ofEncoding L encoding).encode c bytes
      = (.ok (), bytes ++ String.utf8EncodeChar c) :=
  if_pos h

/-- **One character** is written, behind what is there. -/
theorem ofEncoding_encode (h : L.Keeps (L.output encoding)) (c : Char) (bytes : List UInt8) :
    (CharEncoder.ofEncoding L encoding).encode c bytes
      = (.ok (), bytes ++ L.bytesOf encoding c) := by
  rw [CharEncoder.ofEncoding, bytesOf]
  dsimp only
  split
  · rfl
  · rw [h.encodeInto]

/-- A character has at least one byte, and no more than the window holds. -/
theorem length_bytesOf (h : L.Keeps (L.output encoding)) (c : Char) :
    1 ≤ (L.bytesOf encoding c).length ∧ (L.bytesOf encoding c).length ≤ window := by
  have hmark : 1 ≤ window := by decide
  by_cases hutf8 : L.output encoding = L.utf8
  · rw [bytesOf_utf8 hutf8, String.length_utf8EncodeChar]
    exact ⟨c.utf8Size_pos, Nat.le_trans c.utf8Size_le_four (by decide)⟩
  · have hwithin : (L.first (L.output encoding) c).2.1.length ≤ window := L.encode_within _ _ _
    rw [bytesOf_of_ne_utf8 hutf8]
    split
    · next hempty => exact ⟨List.length_pos_iff.2 (h.writes c hempty), hwithin⟩
    · exact ⟨Nat.le_refl 1, hmark⟩

end CharStream.EncodingLibrary
