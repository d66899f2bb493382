import CharStream.Proofs.EncodedChar

/-!
# Encodings that are read back

Characters are written one by one. An encoding is `Faithful` if the bytes of any text are decoded to
the text again, with the question mark that was written for a character that the encoding lacks. In
a faithful encoding ASCII characters are their own bytes, so the question mark is not lacking, and
the text that is read has the bytes of the text that was written.

* `Faithful.bytesOf_shown` — writing again what was read makes no difference.
* `ReadsUtf8.faithful`, `SingleByte.faithful` — the encodings for which all this holds.
-/

namespace CharStream.EncodingLibrary

variable {L : EncodingLibrary} {encoding : L.Encoding}

/-- What is read where a character was written: a question mark, if the encoding lacks it. -/
def shown (L : EncodingLibrary) (encoding : L.Encoding) (c : Char) : Char :=
  if L.output encoding = L.utf8 ∨ (L.first (L.output encoding) c).1 = .inputEmpty then c else '?'

/-- ASCII characters are their own bytes, and texts are read back. -/
structure Faithful (L : EncodingLibrary) (encoding : L.Encoding) : Prop where
  ascii (c : Char) : c.toNat < 0x80 → L.bytesOf encoding c = [c.toNat.toUInt8]
  decode (cs : List Char) :
    L.decodeWithoutMark encoding (cs.flatMap (L.bytesOf encoding)) = cs.map (L.shown encoding)

theorem shown_utf8 (h : L.output encoding = L.utf8) : L.shown encoding = id := by
  funext c
  exact if_pos (.inl h)

/-- **The text that is read has the bytes that were written.** -/
theorem Faithful.bytesOf_shown (h : L.Faithful encoding) (c : Char) :
    L.bytesOf encoding (L.shown encoding c) = L.bytesOf encoding c := by
  by_cases hc : L.output encoding = L.utf8 ∨ (L.first (L.output encoding) c).1 = .inputEmpty
  · rw [shown, if_pos hc]
  · have hutf8 : L.output encoding ≠ L.utf8 := fun hutf8 => hc (.inl hutf8)
    have hlacks : ¬ (L.first (L.output encoding) c).1 = .inputEmpty := fun h => hc (.inr h)
    rw [shown, if_neg hc, h.ascii '?' (by decide), bytesOf_of_ne_utf8 hutf8, if_neg hlacks]
    rfl

/-- **UTF-8 is faithful**, and lacks no character. -/
theorem ReadsUtf8.faithful (h : L.ReadsUtf8) : L.Faithful L.utf8 where
  ascii c hc := by
    rw [bytesOf_utf8 h.output]
    exact Encoding.Utf8.encodeChar_of_lt hc
  decode cs := by
    rw [bytesOf_utf8 h.output, shown_utf8 h.output, List.map_id]
    exact h.decode cs

/-- **Encodings of one byte a character are faithful.** -/
theorem SingleByte.faithful (h : L.SingleByte encoding) : L.Faithful encoding := by
  have hutf8 : L.output encoding ≠ L.utf8 := by
    rw [h.output]
    exact h.ne_utf8
  have hbytes (c : Char) : L.bytesOf encoding c
      = if (L.first encoding c).1 = .inputEmpty then (L.first encoding c).2.1
        else [questionMark] := by
    rw [bytesOf_of_ne_utf8 hutf8, h.output]
  have hshown (c : Char) :
      L.shown encoding c = if (L.first encoding c).1 = .inputEmpty then c else '?' := by
    rw [shown, h.output]
    simp only [h.ne_utf8, false_or]
  obtain ⟨table, htable⟩ := h.decode
  have hmark : [table questionMark] = ['?'] := by
    obtain ⟨hempty, hwritten⟩ := h.ascii '?' (by decide)
    have hread := h.inverts '?' hempty
    rwa [hwritten, htable] at hread
  have hread (c : Char) : (L.bytesOf encoding c).map table = [L.shown encoding c] := by
    rw [hbytes, hshown]
    split
    · next hempty =>
      rw [← htable]
      exact h.inverts c hempty
    · exact hmark
  refine ⟨?_, ?_⟩
  · intro c hc
    obtain ⟨hempty, hwritten⟩ := h.ascii c hc
    rw [hbytes, if_pos hempty, hwritten]
  · intro cs
    rw [htable]
    induction cs with
    | nil => rfl
    | cons c cs ih =>
      rw [List.flatMap_cons, List.map_append, hread, ih]
      rfl

end CharStream.EncodingLibrary
