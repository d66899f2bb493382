import CharStream.Proofs.PercentItems

/-!
# What a failure leaves in the sink

Two things stop an encoder: a character that the character encoder refuses, and a sink that is full.
Whichever comes first decides the outcome, and the sink keeps what it had taken by then.

`acceptedForm` is what the items before the first refused one are written as; of the bytes that the
character encoder left behind with its refusal nothing is in it. A sink with room for all of it gets
all of it, and the outcome is the refusal, if there is one. Any other sink is filled from the front
of it, be it up to the middle of an escape, and then the outcome is that the sink refused.

* `putAll_eq` — what a sink makes of characters, whatever its room.
* `writeItems_eq` — what becomes of items, whatever fails.
* `encode_stops` — what becomes of units and of a text.
-/

namespace CharStream.Percent

open CharStream.Utf16 (Item items units)

/-! ## Sinks with any room -/

/-- Whether a sink has room for `n` characters. -/
def fits (n : Nat) (sink : Sink) : Bool :=
  match sink.room with
  | none => true
  | some room => n ≤ room

/-- The sink with as many of the characters as it has room for. -/
def filled (cs : List Char) (sink : Sink) : Sink :=
  match sink.room with
  | none => { sink with text := sink.text ++ String.ofList cs }
  | some room =>
    { text := sink.text ++ String.ofList (cs.take room), room := some (room - cs.length) }

/-- **A sink takes the characters in front** that it has room for. -/
theorem putAll_eq (cs : List Char) (sink : Sink) :
    sink.putAll cs = (fits cs.length sink, filled cs sink) := by
  obtain ⟨text, room⟩ := sink
  cases room with
  | none => exact putAll_unbounded cs text
  | some room =>
    induction cs generalizing text room with
    | nil => simp [Sink.putAll, fits, filled]
    | cons c cs ih =>
      cases room with
      | zero => simp [Sink.putAll, Sink.put, fits, filled]
      | succ room =>
        have hpush : text.push c ++ String.ofList (cs.take room)
            = text ++ String.ofList (c :: cs.take room) := by
          rw [String.push_eq_append, String.append_assoc, ← String.ofList_cons]
        rw [Sink.putAll, Sink.put]
        simp only [ih]
        simp [fits, filled, hpush]

theorem put_eq (cs : List Char) (sink : Sink) :
    put cs sink = (if fits cs.length sink then .ok () else .error .sink, filled cs sink) := by
  rw [put, putAll_eq]
  cases fits cs.length sink with
  | true => rfl
  | false => rfl

/-! ## Refusals -/

section Refusals

variable (safe : AsciiSet) (encoder : CharEncoder) (case : HexCase)

/-- Why the character encoder refuses to write the item, if it does. -/
def refusal? (i : Item) : Option CharError :=
  match asked safe i with
  | none => none
  | some c =>
    match (encoder.encode c []).1 with
    | .ok () => none
    | .error e => some e

/-- The first refusal among items. -/
def firstRefusal (is : List Item) : Option CharError := is.findSome? (refusal? safe encoder)

/-- What the items before the first refused one are written as. -/
def acceptedForm (is : List Item) : List Char :=
  (is.takeWhile fun i => (refusal? safe encoder i).isNone).flatMap
    (itemForm safe case fun c => (encoder.encode c []).2)

/-- The outcome where the sink has room for everything. -/
def ended : Option CharError → Except EncodeError Unit
  | none => .ok ()
  | some e => .error (.char e)

variable {safe encoder}

theorem accepts_of_refusal? {i : Item} (h : refusal? safe encoder i = none) :
    Accepts safe encoder (fun c => (encoder.encode c []).2) i := by
  intro c hc
  simp only [refusal?, hc] at h
  split at h
  · next hok => exact Prod.ext hok rfl
  · cases h

theorem writeItem_refused {i : Item} {e : CharError} (h : refusal? safe encoder i = some e)
    (sink : Sink) : writeItem safe encoder case i sink = (.error (.char e), sink) := by
  have hescape {c : Char} (hc : asked safe i = some c) :
      escapeAlone encoder case c sink = (.error (.char e), sink) := by
    simp only [refusal?, hc] at h
    rcases hencode : encoder.encode c [] with ⟨x, bytes⟩
    rw [hencode] at h
    rw [escapeAlone, escapeChar, hencode]
    cases x with
    | ok => cases h
    | error e' =>
      obtain rfl := Option.some.inj h
      rfl
  cases i with
  | lone u => exact hescape rfl
  | char c =>
    by_cases hsafe : safe.contains c
    · have hasked : asked safe (.char c) = none := if_pos hsafe
      simp [refusal?, hasked] at h
    · rw [writeItem, if_neg hsafe]
      exact hescape (if_neg hsafe)

/-- **Items end with whatever fails first.** -/
theorem writeItems_eq (is : List Item) (sink : Sink) :
    writeItems safe encoder case is sink
      = match put (acceptedForm safe encoder case is) sink with
        | (.error e, sink) => (.error e, sink)
        | (.ok (), sink) => (ended (firstRefusal safe encoder is), sink) := by
  induction is generalizing sink with
  | nil => rfl
  | cons i is ih =>
    cases hi : refusal? safe encoder i with
    | some e =>
      have hform : acceptedForm safe encoder case (i :: is) = [] := by
        simp [acceptedForm, hi]
      have hfirst : firstRefusal safe encoder (i :: is) = some e := by
        simp [firstRefusal, hi]
      rw [writeItems, writeItem_refused case hi, hform, hfirst]
      rfl
    | none =>
      have hform : acceptedForm safe encoder case (i :: is)
          = itemForm safe case (fun c => (encoder.encode c []).2) i
            ++ acceptedForm safe encoder case is := by
        simp [acceptedForm, hi]
      have hfirst : firstRefusal safe encoder (i :: is) = firstRefusal safe encoder is := by
        simp [firstRefusal, hi]
      rw [writeItems, writeItem_accepted case (accepts_of_refusal? hi), hform, hfirst, put_append]
      rcases put (itemForm safe case (fun c => (encoder.encode c []).2) i) sink
        with ⟨e | ⟨⟩, sink'⟩
      · rfl
      · exact ih sink'

/-! ## Whole escapes -/

variable (safe) in
/-- Safe characters and whole escapes, with digits of the case. -/
inductive Whole : List Char → Prop where
  | nil : Whole []
  | safe {c : Char} {cs : List Char} : safe.contains c = true → Whole cs → Whole (c :: cs)
  | escape {high low : Char} {cs : List Char} : case.isDigit high = true →
      case.isDigit low = true → Whole cs → Whole ('%' :: high :: low :: cs)

variable {case}

theorem Whole.append {cs ds : List Char} (hcs : Whole safe case cs) (hds : Whole safe case ds) :
    Whole safe case (cs ++ ds) := by
  induction hcs with
  | nil => exact hds
  | safe hc _ ih => exact .safe hc ih
  | escape hhigh hlow _ ih => exact .escape hhigh hlow ih

theorem whole_flatMap {α : Type} {f : α → List Char} {as : List α}
    (h : ∀ a ∈ as, Whole safe case (f a)) : Whole safe case (as.flatMap f) := by
  induction as with
  | nil => exact .nil
  | cons a as ih =>
    rw [List.flatMap_cons]
    apply (h a List.mem_cons_self).append
    apply ih
    intro b hb
    exact h b (List.mem_cons_of_mem a hb)

theorem whole_escape (bytes : List UInt8) : Whole safe case (escape case bytes) := by
  apply whole_flatMap
  intro b _
  have hb := b.toNat_lt
  have hhigh := case.isDigit_digit (b.toNat / 16) (by omega)
  have hlow := case.isDigit_digit (b.toNat % 16) (by omega)
  exact .escape hhigh.1 hlow.1 .nil

theorem whole_itemForm (bytes : Char → List UInt8) (i : Item) :
    Whole safe case (itemForm safe case bytes i) := by
  cases i with
  | lone u => exact whole_escape _
  | char c =>
    rw [itemForm, charForm]
    by_cases hsafe : safe.contains c
    · rw [if_pos hsafe]
      exact .safe hsafe .nil
    · rw [if_neg hsafe]
      exact whole_escape _

theorem whole_acceptedForm (is : List Item) :
    Whole safe case (acceptedForm safe encoder case is) := by
  apply whole_flatMap
  intro i _
  exact whole_itemForm _ i

end Refusals

/-! ## The encoder -/

section Encoding

variable {L : EncodingLibrary} {e : Encoder L} {encoder : CharEncoder} {target : Target L}
  (htarget : e.target.encoder = (.ok encoder, target)) (case : HexCase)
include htarget

theorem encodeUnits_eq (us : List UInt16) (sink : Sink) :
    let form := acceptedForm e.safe encoder case (items us)
    e.encodeUnits case us sink
      = (if fits form.length sink then ended (firstRefusal e.safe encoder (items us))
          else .error .sink,
        filled form sink,
        { e with target, scratch := scratchLeft e.safe e.scratch (comesTo sink (items us)) }) := by
  intro form
  rw [encodeUnits_eq_writeItems htarget, writeItems_eq, put_eq]
  by_cases hfits : fits form.length sink = true
  · simp only [form, hfits, if_true]
  · simp only [form, hfits]
    rfl

/-- **What a failure leaves behind.** Let `form` be what the items before the first refused one are
written as. A sink takes as much from the front of it as there is room for, and has refused if there
is more. What it holds goes on to whole escapes, and the scratch bytes are gone once an item was
come to that is escaped. A text that fails is encoded to the empty string. -/
theorem encode_stops (out : String) :
    (∀ us : List UInt16,
      let form := acceptedForm e.safe encoder case (items us)
      let refused := firstRefusal e.safe encoder (items us)
      let left (is : List Item) : Encoder L :=
        { e with target, scratch := scratchLeft e.safe e.scratch is }
      (∀ room : Nat,
        let outcome := if room < form.length then .error .sink else ended refused
        e.encodeUnits case us { text := out, room := some room }
            = (outcome, { text := out ++ String.ofList (form.take room),
                          room := some (room - form.length) },
                left ((items us).take (room + 1))) ∧
          ∃ rest, Whole e.safe case (form.take room ++ rest) ∧
            (outcome ≠ .error .sink → rest = [])) ∧
      e.encodeUnits case us { text := out }
        = (ended refused, { text := out ++ String.ofList form }, left (items us))) ∧
    ∀ text : String,
      items (units text.toList) = text.toList.map .char ∧
      (∀ sink, e.encode case text sink = e.encodeUnits case (units text.toList) sink) ∧
      (e.encodeToString case text).1
        = if firstRefusal e.safe encoder (text.toList.map .char) = none then
            String.ofList (acceptedForm e.safe encoder case (text.toList.map .char))
          else "" := by
  refine ⟨?_, ?_⟩
  · intro us form refused left
    refine ⟨?_, encodeUnits_eq htarget case us { text := out }⟩
    intro room outcome
    refine ⟨?_, form.drop room, ?_, ?_⟩
    · rw [encodeUnits_eq htarget]
      by_cases hroom : room < form.length
      · have hfits : fits form.length { text := out, room := some room } = false := by
          simp [fits, hroom]
        simp only [form, hfits, outcome, if_pos hroom]
        rfl
      · have hfits : fits form.length { text := out, room := some room } = true := by
          simp [fits, Nat.le_of_not_lt hroom]
        simp only [form, hfits, outcome, if_neg hroom]
        rfl
    · rw [List.take_append_drop]
      exact whole_acceptedForm _
    · intro houtcome
      by_cases hroom : room < form.length
      · exact absurd (if_pos hroom) houtcome
      · exact List.drop_eq_nil_of_le (Nat.le_of_not_lt hroom)
  · intro text
    refine ⟨Utf16.items_units text.toList, fun _ => rfl, ?_⟩
    rw [Encoder.encodeToString, Encoder.encode, encodeUnits_eq htarget, Utf16.items_units]
    cases hrefused : firstRefusal e.safe encoder (text.toList.map .char) with
    | none => simp [fits, filled, ended]
    | some err => simp [fits, filled, ended]

end Encoding

/-- UTF-8 for every character but one, which is refused after a byte was appended for it. -/
def utf8Spoiling (refused : Char) : CharEncoder where
  encode c bytes :=
    if c = refused then (.error (.unmappable c), bytes ++ [0xC3])
    else CharEncoder.utf8.encode c bytes

/-- A sink that is full in the middle of an escape, one that has room for just what comes before a
character that is refused with a byte already appended, and the text that is lost with it. -/
theorem encode_stops_refused :
    let encoder := utf8Spoiling 'é'
    let e : Encoder .own := { safe := .ofList ['a', '?'], target := .custom encoder }
    let us : List UInt16 := [0x61, 0x20, 0xD83D, 0xE9, 0x61]
    e.target.encoder = (.ok encoder, e.target) ∧
      e.encodeUnits .upper us { text := "q=", room := some 3 }
        = (.error .sink, { text := "q=a%2", room := some 0 }, e) ∧
      e.encodeUnits .upper us { text := "q=", room := some 7 }
        = (.error (.char (.unmappable 'é')), { text := "q=a%20%3F", room := some 0 }, e) ∧
      (e.encodeToString .upper "a é").1 = "" ∧ (e.encodeToString .upper "a ?").1 = "a%20?" := by
  intro encoder e us
  have htarget : e.target.encoder = (.ok encoder, e.target) := rfl
  have hform : acceptedForm e.safe encoder .upper (items us) = "a%20%3F".toList := by
    decide +kernel
  have hrefused : firstRefusal e.safe encoder (items us) = some (.unmappable 'é') := by
    decide +kernel
  obtain ⟨hunits, htext⟩ := encode_stops htarget .upper "q="
  have hroom (room : Nat) := ((hunits us).1 room).1
  have hscratch (is : List Item) : scratchLeft e.safe e.scratch is = [] := scratchLeft_nil _ is
  simp only [hform, hrefused, hscratch] at hroom
  refine ⟨htarget, hroom 3, hroom 7, ?_, ?_⟩
  · rw [(htext "a é").2.2]
    decide +kernel
  · rw [(htext "a ?").2.2]
    decide +kernel

end CharStream.Percent
