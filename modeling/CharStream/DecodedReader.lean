import CharStream.ByteScript
import CharStream.Encoding.Library
import CharStream.Reader

/-!
# Characters from a byte stream

A decoded reader fetches bytes in chunks, decodes them, and hands out the characters. It fetches
only when everything decoded has been handed out.

**Fetching.** An interrupted read is repeated. Any other fault is returned once, and leaves the
reader as it was; a later call goes on behind it. A chunk that completes no character makes the
reader fetch the next. A read that brings no bytes is the end: the decoder is flushed, and the byte
stream is not asked again. A chunk whose text would be too large is a fault, and its bytes are lost.

**The text.** `text` is what the last chunk decoded to, and `offset` counts the UTF-8 bytes of its
characters that have been handed out. The difference is what is pending.
-/

namespace CharStream

/-- The number of bytes of a text in UTF-8. -/
def utf8Size : List Char → Nat
  | [] => 0
  | c :: cs => c.utf8Size + utf8Size cs

/-- What follows the first `n` UTF-8 bytes of a text; a character that is cut counts as gone. -/
def dropBytes : Nat → List Char → List Char
  | 0, cs => cs
  | _, [] => []
  | n + 1, c :: cs => dropBytes (n + 1 - c.utf8Size) cs

/-- A byte stream with a decoder, the text of the last chunk, and how far it has been read. -/
structure DecodedReader (L : EncodingLibrary) where
  script : ByteScript
  decoder : L.Decoder := L.newDecoder L.utf8
  text : List Char := []
  offset : Nat := 0
  finished : Bool := false

namespace DecodedReader

variable {L : EncodingLibrary}

/-- The number of bytes fetched at a time. -/
def chunkSize : Nat := 8192

/-- A reader at the start of a byte stream. -/
def ofEncoding (script : ByteScript) (encoding : L.Encoding) : DecodedReader L :=
  { script, decoder := L.newDecoder encoding }

/-- The number of UTF-8 bytes decoded and not yet handed out. -/
def pending (r : DecodedReader L) : Nat := utf8Size r.text - r.offset

/-- The fault of a chunk that there can be no room for. -/
def chunkTooLarge : ByteFault := { kind := .outOfMemory, message := "decoded chunk too large" }

/-- Decodes the bytes of a read into the room that the decoder asks for; no bytes are the end of the
stream. The text of the last chunk is dropped first, whatever becomes of this one. -/
def decodeChunk (bytes : List UInt8) (r : DecodedReader L) :
    Except ByteFault Unit × DecodedReader L :=
  match L.roomFor bytes.length r.decoder with
  | none => (.error chunkTooLarge, { r with text := [], offset := 0 })
  | some room =>
    let (text, decoder) := L.decode bytes bytes.isEmpty (some room) r.decoder
    (.ok (), { r with decoder, text, offset := 0, finished := bytes.isEmpty })

/-- Bounds the reads that are still to be made of the byte stream. -/
def readsLeft (r : DecodedReader L) : Nat := if r.finished then 0 else r.script.size + 1

theorem readsLeft_error {r : DecodedReader L} {f : ByteFault} {script : ByteScript} {n : Nat}
    (hfin : ¬ r.finished = true) (hread : r.script.read n = (.error f, script)) :
    readsLeft { r with script } < r.readsLeft := by
  rw [readsLeft, readsLeft, if_neg hfin, if_neg hfin]
  exact Nat.succ_lt_succ (ByteScript.size_read_error hread)

/-- A chunk leaves the byte stream where it is, and no bytes are the end of it. -/
theorem decodeChunk_ok {bytes : List UInt8} {r r' : DecodedReader L}
    (h : r.decodeChunk bytes = (.ok (), r')) :
    r'.script = r.script ∧ r'.finished = bytes.isEmpty := by
  unfold decodeChunk at h
  split at h
  · cases h
  · cases h
    exact ⟨rfl, rfl⟩

theorem readsLeft_decodeChunk {r r' : DecodedReader L} {bytes : List UInt8} {script : ByteScript}
    {n : Nat} (hfin : ¬ r.finished = true) (hread : r.script.read n = (.ok bytes, script))
    (hchunk : decodeChunk bytes { r with script } = (.ok (), r')) :
    r'.readsLeft < r.readsLeft := by
  obtain ⟨hscript, hend⟩ := decodeChunk_ok hchunk
  rw [readsLeft, readsLeft, if_neg hfin, hend, hscript]
  cases bytes with
  | nil => exact Nat.succ_pos _
  | cons b bs => exact Nat.succ_lt_succ (ByteScript.size_read_cons hread)

/-- Fetches and decodes until there is text or the stream ends; `false` says that it ended and
nothing more came out. -/
def refill (r : DecodedReader L) : Except ByteFault Bool × DecodedReader L :=
  if r.finished then (.ok false, r)
  else
    match _hread : r.script.read chunkSize with
    | (.error f, script) =>
      if f.kind = .interrupted then refill { r with script } else (.error f, { r with script })
    | (.ok bytes, script) =>
      match _hchunk : decodeChunk bytes { r with script } with
      | (.error f, r) => (.error f, r)
      | (.ok (), r) => if r.text.isEmpty then refill r else (.ok true, r)
termination_by r.readsLeft
decreasing_by
  · exact readsLeft_error ‹_› _hread
  · exact readsLeft_decodeChunk ‹_› _hread _hchunk

/-- The characters decoded and not yet handed out. -/
def unread (r : DecodedReader L) : List Char := dropBytes r.offset r.text

/-- Hands out at most `n` of the characters `unread`, which are those not yet handed out. -/
def handOut (n : Nat) (unread : List Char) (r : DecodedReader L) : List Char × DecodedReader L :=
  let cs := unread.take n
  (cs, { r with offset := r.offset + utf8Size cs })

/-- Hands out at most `n` characters, after fetching if none is pending. -/
def read (n : Nat) (r : DecodedReader L) : Except ByteFault (List Char) × DecodedReader L :=
  if n = 0 then (.ok [], r)
  else
    match r.unread with
    | c :: cs =>
      let (cs, r) := r.handOut n (c :: cs)
      (.ok cs, r)
    | [] =>
      match r.refill with
      | (.error f, r) => (.error f, r)
      | (.ok false, r) => (.ok [], r)
      | (.ok true, r) =>
        let (cs, r) := r.handOut n r.unread
        (.ok cs, r)

theorem length_handOut (n : Nat) (unread : List Char) (r : DecodedReader L) :
    (r.handOut n unread).1.length ≤ n := by
  simp only [handOut, List.length_take, Nat.min_le_left]

theorem length_read_le {n : Nat} {r : DecodedReader L} {cs : List Char} {r' : DecodedReader L}
    (h : r.read n = (.ok cs, r')) : cs.length ≤ n := by
  unfold read at h
  split at h
  · simp_all
  · split at h
    · simp only [Prod.mk.injEq, Except.ok.injEq] at h
      exact h.1 ▸ length_handOut n _ _
    · split at h
      · simp at h
      · simp only [Prod.mk.injEq, Except.ok.injEq] at h
        simp [← h.1]
      · simp only [Prod.mk.injEq, Except.ok.injEq] at h
        exact h.1 ▸ length_handOut n _ _

instance : Reader (DecodedReader L) ByteFault where
  read := read
  length_read_le := length_read_le

/-- The state of the reader in words: the encoding in force, what is pending, and whether the end
was reached. -/
def describe (r : DecodedReader L) : String :=
  "DecodingReader \x7b encoding: \"" ++ L.name (L.inForce r.decoder) ++ "\", pending: "
    ++ toString r.pending ++ ", finished: " ++ toString r.finished ++ ", .. \x7d"

end DecodedReader

end CharStream
