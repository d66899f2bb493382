import CharStream.Encoding.Own
import CharStream.Proofs.EncodingLibrary

/-!
# What the encodings for running meet

The encodings that programs are run with meet what is relied on of a library of encodings.

* `own_streams`, `own_suffices` — the decoders read byte by byte, so cuts make no difference, and
  they ask for no room that they depend on.
* `own_keeps` — no character has more bytes than the window holds.
* `own_readsUtf8`, `own_singleByte` — UTF-8 and the encodings of one byte a character are read back.
-/

namespace CharStream

/-! ## Decoders -/

namespace EncodingLibrary

theorem own_streams : own.Streams where
  nil _ := rfl
  append d as bs last := by
    show d.read (as ++ bs) last = ((d.read as false).1 ++ ((d.read as false).2.read bs last).1, _)
    cases last with
    | false => exact d.feed_append as bs
    | true =>
      simp only [Encoding.Decoder.read, d.feed_append, if_true, List.append_assoc]
      rfl

theorem own_suffices (n : Nat) : own.Suffices n := fun _ _ _ _ => ⟨_, rfl, rfl⟩

end EncodingLibrary

/-! ## Encoders -/

/-- Bytes, if there are any, are at least one and no more than the window holds. -/
def Fits (o : Option (List UInt8)) : Prop :=
  ∀ bytes ∈ o, 1 ≤ bytes.length ∧ bytes.length ≤ EncodingLibrary.window

namespace Fits

theorem none : Fits none := fun _ h => nomatch h

theorem some {b : UInt8} {bytes : List UInt8}
    (h : decide (bytes.length < EncodingLibrary.window) = true := by rfl) :
    Fits (some (b :: bytes)) := by
  rintro _ ⟨⟩
  exact ⟨Nat.succ_pos _, of_decide_eq_true h⟩

theorem ite {p : Prop} [Decidable p] {o o' : Option (List UInt8)} (h : Fits o) (h' : Fits o') :
    Fits (if p then o else o') := by
  split
  · exact h
  · exact h'

theorem or {o o' : Option (List UInt8)} (h : Fits o) (h' : Fits o') : Fits (o.or o') := by
  cases o with
  | none => exact h'
  | some bytes => exact h

theorem bind {α : Type} {o : Option α} {f : α → Option (List UInt8)} (h : ∀ a, Fits (f a)) :
    Fits (o.bind f) := by
  cases o with
  | none => exact none
  | some a => exact h a

end Fits

namespace Encoding

theorem fits_utf8 (c : Char) : Fits (some (String.utf8EncodeChar c)) := by
  rintro _ ⟨⟩
  rw [String.length_utf8EncodeChar]
  exact ⟨c.utf8Size_pos, Nat.le_trans c.utf8Size_le_four (by decide)⟩

theorem fits_bytesOf? (encoding : Encoding) (c : Char) : Fits (encoding.bytesOf? c) := by
  cases encoding with
  | utf8 => exact fits_utf8 c
  | utf16be => exact fits_utf8 c
  | utf16le => exact fits_utf8 c
  | replacement => exact fits_utf8 c
  | singleByte table =>
    rw [bytesOf?, Option.map_eq_bind]
    exact .bind fun _ => .some
  | shiftJis =>
    refine .ite .some (.ite .some (.ite .some ?_))
    split
    · exact .some
    · exact .bind fun _ => .some
  | eucJp =>
    refine .ite .some (.ite .some (.ite .some ?_))
    split
    · exact .some
    · exact .bind fun _ => .some
  | iso2022Jp =>
    exact .ite (.ite .some .none) (.ite .some (.ite .some (.bind fun _ => .some)))
  | eucKr => exact .ite .some (.bind fun _ => .some)
  | gbk => exact .ite .some (.ite .some (.bind fun _ => .some))
  | gb18030 => exact .ite .some (.or (.bind fun _ => .some) (.bind fun _ => .some))
  | big5 => exact .ite .some (.bind fun _ => .some)

theorem write_one {encoding : Encoding} {c : Char} {bytes : List UInt8}
    (h : encoding.bytesOf? c = some bytes) :
    write [c] EncodingLibrary.window encoding = (.inputEmpty, bytes, encoding) := by
  have hle := (fits_bytesOf? encoding c bytes h).2
  rw [write, h]
  dsimp only
  rw [if_pos hle, write, List.append_nil]

theorem write_lacking {encoding : Encoding} {c : Char} (h : encoding.bytesOf? c = none) :
    write [c] EncodingLibrary.window encoding = (.unmappable c, [], encoding) := by
  rw [write, h]

end Encoding

namespace EncodingLibrary

theorem own_first (encoding : CharStream.Encoding) (c : Char) :
    own.first encoding c = Encoding.write [c] window encoding := rfl

theorem own_keeps (encoding : CharStream.Encoding) : own.Keeps encoding := by
  have hfirst (c : Char) :
      (∃ bytes, bytes ≠ [] ∧ own.first encoding c = (.inputEmpty, bytes, encoding)) ∨
        own.first encoding c = (.unmappable c, [], encoding) := by
    rw [own_first]
    cases h : encoding.bytesOf? c with
    | none => exact .inr (Encoding.write_lacking h)
    | some bytes =>
      have hpos := (Encoding.fits_bytesOf? encoding c bytes h).1
      exact .inl ⟨bytes, List.length_pos_iff.1 hpos, Encoding.write_one h⟩
  constructor
  · intro c
    obtain ⟨bytes, -, hc⟩ | hc := hfirst c <;> simp [hc]
  · intro c
    obtain ⟨bytes, hne, hc⟩ | hc := hfirst c
    · simpa [hc] using hne
    · simp [hc]
  · intro c d
    obtain ⟨bytes, -, hc⟩ | hc := hfirst c <;> simp [hc]
  · -- The end of a stream adds nothing, whatever came before.
    intro c d _
    exact ⟨rfl, rfl⟩

end EncodingLibrary

/-! ## UTF-8 -/

namespace Encoding.Utf8

theorem first_two : ∀ n < 0x20, 2 ≤ n →
    first (UInt8.ofNat (n + 0xC0)) = ([], .expect n 0 0x80 0xBF) := by
  decide

/-- The first byte of three. Overlong forms and surrogates are ruled out by the second. -/
theorem first_three : ∀ n < 0x10,
    first (UInt8.ofNat (n + 0xE0))
      = ([], .expect n 1 (if n = 0 then 0xA0 else 0x80) (if n = 0xD then 0x9F else 0xBF)) := by
  decide

/-- The first byte of four. Overlong forms and what is past U+10FFFF are ruled out by the second. -/
theorem first_four : ∀ n < 5,
    first (UInt8.ofNat (n + 0xF0))
      = ([], .expect n 2 (if n = 0 then 0x90 else 0x80) (if n = 4 then 0x8F else 0xBF)) := by
  decide

theorem toNat_continuation (n : Nat) : (UInt8.ofNat (n % 64 + 0x80)).toNat = n % 64 + 0x80 := by
  have hn : n % 64 + 0x80 < 0x100 := by omega
  exact UInt8.toNat_ofNat_of_lt' hn

theorem step_expect {code more n : Nat} {low high : UInt8} (hlow : low.toNat ≤ n % 64 + 0x80)
    (hhigh : n % 64 + 0x80 ≤ high.toNat) :
    step (.expect code more low high) (UInt8.ofNat (n % 64 + 0x80)) = match more with
      | 0 => ([Char.ofNat (code * 64 + n % 64)], .start)
      | more + 1 => ([], .expect (code * 64 + n % 64) more 0x80 0xBF) := by
  have hrange : low ≤ UInt8.ofNat (n % 64 + 0x80) ∧ UInt8.ofNat (n % 64 + 0x80) ≤ high := by
    rw [UInt8.le_iff_toNat_le, UInt8.le_iff_toNat_le, toNat_continuation]
    exact ⟨hlow, hhigh⟩
  have hbits : (UInt8.ofNat (n % 64 + 0x80)).toNat - 0x80 = n % 64 := by
    rw [toNat_continuation, Nat.add_sub_cancel]
  cases more with
  | zero => simp only [step, if_pos hrange, hbits]
  | succ more => simp only [step, if_pos hrange, hbits]

theorem step_continuation (code more n : Nat) :
    step (.expect code more 0x80 0xBF) (UInt8.ofNat (n % 64 + 0x80)) = match more with
      | 0 => ([Char.ofNat (code * 64 + n % 64)], .start)
      | more + 1 => ([], .expect (code * 64 + n % 64) more 0x80 0xBF) := by
  have hhigh : n % 64 + 0x80 ≤ 0xBF := by omega
  exact step_expect (Nat.le_add_left _ _) hhigh

/-- The decoder of UTF-8 in a state. -/
def decoder (s : State) : Decoder := .decoding .utf8 (.utf8 s)

theorem feed_cons (s : State) (b : UInt8) (bs : List UInt8) :
    (decoder s).feed (b :: bs) = ((step s b).1 ++ ((decoder (step s b).2).feed bs).1,
      ((decoder (step s b).2).feed bs).2) :=
  Decoder.feed_cons _ b bs

section Sequences

variable {n : Nat}

theorem feed_one (h : n < 0x80) :
    (decoder .start).feed [UInt8.ofNat n] = ([Char.ofNat n], decoder .start) := by
  have hbyte : (UInt8.ofNat n).toNat = n := by
    have hlt : n < 0x100 := by omega
    exact UInt8.toNat_ofNat_of_lt' hlt
  have hascii : UInt8.ofNat n < 0x80 := by
    rw [UInt8.lt_iff_toNat_lt, hbyte]
    exact h
  rw [feed_cons, step, first, if_pos hascii, asciiChar, hbyte]
  rfl

theorem feed_two (hlow : 0x80 ≤ n) (hhigh : n < 0x800) :
    (decoder .start).feed [UInt8.ofNat (n / 64 % 32 + 0xC0), UInt8.ofNat (n % 64 + 0x80)]
      = ([Char.ofNat n], decoder .start) := by
  have hfirst := first_two (n / 64 % 32) (by omega) (by omega)
  have hcode : n / 64 % 32 * 64 + n % 64 = n := by omega
  rw [feed_cons, step, hfirst, feed_cons, step_continuation]
  simp only [hcode]
  rfl

theorem feed_three (hlow : 0x800 ≤ n) (hhigh : n < 0x10000) (h : n < 0xD800 ∨ 0xDFFF < n) :
    (decoder .start).feed [UInt8.ofNat (n / 4096 % 16 + 0xE0), UInt8.ofNat (n / 64 % 64 + 0x80),
        UInt8.ofNat (n % 64 + 0x80)]
      = ([Char.ofNat n], decoder .start) := by
  have hfirst := first_three (n / 4096 % 16) (by omega)
  have hoverlong : (if n / 4096 % 16 = 0 then (0xA0 : UInt8) else 0x80).toNat
      ≤ n / 64 % 64 + 0x80 := by
    split
    · show 0xA0 ≤ _
      omega
    · exact Nat.le_add_left _ _
  have hsurrogate : n / 64 % 64 + 0x80
      ≤ (if n / 4096 % 16 = 0xD then (0x9F : UInt8) else 0xBF).toNat := by
    split
    · show _ ≤ 0x9F
      omega
    · show _ ≤ 0xBF
      omega
  have hcode : (n / 4096 % 16 * 64 + n / 64 % 64) * 64 + n % 64 = n := by omega
  rw [feed_cons, step, hfirst, feed_cons, step_expect hoverlong hsurrogate, feed_cons,
    step_continuation]
  simp only [hcode]
  rfl

theorem feed_four (hlow : 0x10000 ≤ n) (hhigh : n < 0x110000) :
    (decoder .start).feed [UInt8.ofNat (n / 262144 % 8 + 0xF0), UInt8.ofNat (n / 4096 % 64 + 0x80),
        UInt8.ofNat (n / 64 % 64 + 0x80), UInt8.ofNat (n % 64 + 0x80)]
      = ([Char.ofNat n], decoder .start) := by
  have hfirst := first_four (n / 262144 % 8) (by omega)
  have hoverlong : (if n / 262144 % 8 = 0 then (0x90 : UInt8) else 0x80).toNat
      ≤ n / 4096 % 64 + 0x80 := by
    split
    · show 0x90 ≤ _
      omega
    · exact Nat.le_add_left _ _
  have hpast : n / 4096 % 64 + 0x80
      ≤ (if n / 262144 % 8 = 4 then (0x8F : UInt8) else 0xBF).toNat := by
    split
    · show _ ≤ 0x8F
      omega
    · show _ ≤ 0xBF
      omega
  have hcode : ((n / 262144 % 8 * 64 + n / 4096 % 64) * 64 + n / 64 % 64) * 64 + n % 64 = n := by
    omega
  rw [feed_cons, step, hfirst, feed_cons, step_expect hoverlong hpast, feed_cons,
    step_continuation, feed_cons, step_continuation]
  simp only [hcode]
  rfl

end Sequences

/-- **The bytes of a character** are read as the character. -/
theorem feed_encodeChar (c : Char) :
    (decoder .start).feed (String.utf8EncodeChar c) = ([c], decoder .start) := by
  have hvalid := Utf16.toNat_bounds c
  have hchar : Char.ofNat c.val.toNat = c := Char.ofNat_toNat c
  have hval : c.val.toNat = c.toNat := rfl
  rw [String.utf8EncodeChar]
  split
  · rw [feed_one (by omega), hchar]
  · split
    · rw [feed_two (by omega) (by omega), hchar]
    · split
      · rw [feed_three (by omega) (by omega) (by omega), hchar]
      · rw [feed_four (by omega) (by omega), hchar]

theorem feed_encode (cs : List Char) :
    (decoder .start).feed (encode cs) = (cs, decoder .start) := by
  induction cs with
  | nil => rfl
  | cons c cs ih =>
    have hsplit : encode (c :: cs) = String.utf8EncodeChar c ++ encode cs := List.flatMap_cons
    rw [hsplit, Decoder.feed_append, feed_encodeChar, ih]
    rfl

end Encoding.Utf8

theorem EncodingLibrary.own_readsUtf8 : own.ReadsUtf8 where
  output := rfl
  decode cs := by
    show ((Encoding.Utf8.decoder .start).read (Encoding.Utf8.encode cs) true).1 = cs
    rw [Encoding.Decoder.read, Encoding.Utf8.feed_encode]
    exact List.append_nil cs

/-! ## Single bytes -/

namespace Encoding

variable (table : SingleByte)

theorem feed_singleByte (bytes : List UInt8) :
    (Decoder.withoutMark (.singleByte table)).feed bytes
      = (bytes.map fun b => (table.decode b).getD replacementChar,
          Decoder.withoutMark (.singleByte table)) := by
  induction bytes with
  | nil => rfl
  | cons b bs ih =>
    have hstep : (Decoder.withoutMark (.singleByte table)).step b
        = ([(table.decode b).getD replacementChar], Decoder.withoutMark (.singleByte table)) := rfl
    rw [Decoder.feed_cons, hstep, ih]
    rfl

theorem write_singleByte (c : Char) :
    write [c] EncodingLibrary.window (.singleByte table)
      = match table.encode c with
        | some b => (.inputEmpty, [b], .singleByte table)
        | none => (.unmappable c, [], .singleByte table) := by
  cases h : table.encode c with
  | some b =>
    have hbytes : bytesOf? (.singleByte table) c = some [b] := by rw [bytesOf?, h, Option.map_some]
    exact write_one hbytes
  | none =>
    have hbytes : bytesOf? (.singleByte table) c = none := by rw [bytesOf?, h, Option.map_none]
    exact write_lacking hbytes

end Encoding

theorem EncodingLibrary.own_singleByte (table : Encoding.SingleByte) :
    own.SingleByte (.singleByte table) where
  ne_utf8 := nofun
  output := rfl
  decode := by
    refine ⟨fun b => (table.decode b).getD Encoding.replacementChar, ?_⟩
    intro bytes
    show ((Encoding.Decoder.withoutMark (.singleByte table)).read bytes true).1 = _
    rw [Encoding.Decoder.read, Encoding.feed_singleByte]
    exact List.append_nil _
  ascii c hc := by
    have hencode : table.encode c = some c.toNat.toUInt8 := if_pos hc
    rw [own_first, Encoding.write_singleByte, hencode]
    exact ⟨rfl, rfl⟩
  inverts c hc := by
    rw [own_first, Encoding.write_singleByte] at hc ⊢
    cases hencode : table.encode c with
    | none =>
      rw [hencode] at hc
      cases hc
    | some b =>
      show ((Encoding.Decoder.withoutMark (.singleByte table)).read [b] true).1 = [c]
      rw [Encoding.Decoder.read, Encoding.feed_singleByte, List.map_singleton,
        Encoding.SingleByte.decode_encode hencode]
      rfl

end CharStream
