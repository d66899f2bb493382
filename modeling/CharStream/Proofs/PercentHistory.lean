import CharStream.Proofs.PercentCanonical
import CharStream.Proofs.PercentFailures

/-!
# Encoders without history

An encoder is used call after call. Between calls it keeps its safe characters and its target, and
two things that nobody asked it to keep: the encoding that its label was found to mean, and the
buffer for the bytes of a character.

Neither is ever seen. `forget` drops both, and an encoder that is `Sound`, with an empty buffer and
with a meaning remembered only if it is that of the label, encodes just as it does after `forget`.
Every call leaves a sound encoder behind, whatever fails in it, so encoders that agree after
`forget` reply alike for good.

* `Sound.run_cases` — what one call leaves behind.
* `Sound.run_forget` — no call sees what is forgotten; `replies_eq` — so nor do any calls.
* `Sound.after_configured` — what many calls leave behind is what they chose and made safe.
* `encoder_keeps_no_history` — whatever was called, the encoder is as good as new.
-/

namespace CharStream.Percent

/-! ## Calls -/

/-- A call of an encoder. -/
inductive Call where
  | addSafe (c : Char)
  | setTarget (label : String)
  | encodeUnits (case : HexCase) (us : List UInt16) (sink : Sink)
  | encode (case : HexCase) (text : String) (sink : Sink)
  | encodeToString (case : HexCase) (text : String)

/-- What the caller learns from a call. -/
inductive Reply where
  | added (outcome : Except EncodeError Unit)
  | done
  | wrote (outcome : Except EncodeError Unit) (sink : Sink)
  | text (text : String)

variable {L : EncodingLibrary}

namespace Call

/-- A call: the reply, and the encoder after it. -/
def run (e : Encoder L) : Call → Reply × Encoder L
  | addSafe c => (.added (e.addSafe c).1, (e.addSafe c).2)
  | setTarget label => (.done, e.setTarget label)
  | encodeUnits case us sink =>
    match e.encodeUnits case us sink with
    | (outcome, sink, e) => (.wrote outcome sink, e)
  | encode case text sink =>
    match e.encode case text sink with
    | (outcome, sink, e) => (.wrote outcome sink, e)
  | encodeToString case text =>
    match e.encodeToString case text with
    | (text, e) => (.text text, e)

/-- The label that the call chooses. -/
def chosen? : Call → Option String
  | setTarget label => some label
  | _ => none

/-- The character that the call makes safe, if it is ASCII. -/
def added? : Call → Option Char
  | addSafe c => some c
  | _ => none

end Call

namespace Encoder

/-- The encoder after calls. -/
def after (e : Encoder L) (calls : List Call) : Encoder L :=
  calls.foldl (fun e call => (call.run e).2) e

/-- The replies to calls, one after the other. -/
def replies : Encoder L → List Call → List Reply
  | _, [] => []
  | e, call :: calls => (call.run e).1 :: replies (call.run e).2 calls

end Encoder

/-- How an encoder begins: with options, or with a character encoder of the caller's own. -/
inductive Start where
  | ofOptions (options : Options)
  | ofCharEncoder (encoder : CharEncoder)

namespace Start

/-- A new encoder. -/
def encoder : Start → Encoder L
  | .ofOptions options => .ofOptions options
  | .ofCharEncoder encoder => .ofCharEncoder encoder

/-- A start with the label that calls chose last, if any did. -/
def last (start : Start) (calls : List Call) : Start :=
  match (calls.filterMap Call.chosen?).getLast? with
  | none => start
  | some label => .ofOptions { label }

/-- A new encoder with the label that calls chose last and with the characters that they made safe.
Nothing was encoded with it. -/
def configured (start : Start) (calls : List Call) : Encoder L :=
  (start.last calls).encoder.addSafes (calls.filterMap Call.added?)

theorem last_cons (start : Start) (call : Call) (calls : List Call) :
    start.last (call :: calls) = (start.last [call]).last calls := by
  cases hchosen : call.chosen? with
  | none => simp [last, hchosen]
  | some label =>
    cases hlast : (calls.filterMap Call.chosen?).getLast? with
    | none => simp [last, hchosen, hlast, List.getLast?_cons]
    | some label' => simp [last, hchosen, hlast, List.getLast?_cons]

end Start

/-! ## What is forgotten -/

/-- The target without what its label was found to mean. -/
def Target.forget : Target L → Target L
  | named label _ => named label none
  | custom encoder => custom encoder

namespace Encoder

/-- The encoder without what its label was found to mean, and with an empty buffer. -/
def forget (e : Encoder L) : Encoder L := { e with target := e.target.forget, scratch := [] }

/-- The encoder with its label looked up. -/
def lookedUp (e : Encoder L) : Encoder L := { e with target := e.target.encoder.2 }

/-- The buffer is empty, and a meaning that is remembered is that of the label. -/
structure Sound (e : Encoder L) : Prop where
  scratch : e.scratch = []
  resolved : ∀ label encoding, e.target = .named label (some encoding) →
    L.ofLabel? label = some encoding

end Encoder

namespace Encoder

variable {e f : Encoder L}

theorem forget_forget (e : Encoder L) : e.forget.forget = e.forget := by
  obtain ⟨safe, target, scratch⟩ := e
  cases target with
  | named label resolved => rfl
  | custom encoder => rfl

theorem Sound.encoder_forget (h : e.Sound) : e.target.forget.encoder = e.target.encoder := by
  cases htarget : e.target with
  | custom encoder => rfl
  | named label resolved =>
    cases resolved with
    | none => rfl
    | some encoding =>
      have hlabel := h.resolved label encoding htarget
      simp [Target.forget, Target.encoder, resolve, hlabel]

theorem lookedUp_forget (e : Encoder L) : e.lookedUp.forget = e.forget := by
  obtain ⟨safe, target, scratch⟩ := e
  cases target with
  | custom encoder => rfl
  | named label resolved =>
    cases resolved with
    | some encoding => rfl
    | none =>
      rw [lookedUp, Target.encoder]
      cases resolve L label with
      | ok encoding => rfl
      | error err => rfl

theorem Sound.lookedUp (h : e.Sound) : e.lookedUp.Sound := by
  refine ⟨h.scratch, ?_⟩
  intro label encoding htarget
  have htarget : e.target.encoder.2 = .named label (some encoding) := htarget
  rw [← h.encoder_forget] at htarget
  cases ht : e.target with
  | custom encoder =>
    rw [ht] at htarget
    cases htarget
  | named label' resolved =>
    rw [ht, Target.forget] at htarget
    cases hlabel : L.ofLabel? label' with
    | none => simp [Target.encoder, resolve, hlabel] at htarget
    | some encoding' =>
      obtain ⟨rfl, rfl⟩ : label' = label ∧ encoding' = encoding := by
        simpa [Target.encoder, resolve, hlabel] using htarget
      exact hlabel

/-- An unknown label has no meaning that could be remembered. -/
theorem Sound.unknown (h : e.Sound) {label : String} (hlabel : e.target.label? = some label)
    (hunknown : L.ofLabel? label = none) : e.target = .named label none := by
  cases htarget : e.target with
  | custom encoder =>
    rw [htarget] at hlabel
    cases hlabel
  | named label' resolved =>
    rw [htarget] at hlabel
    obtain rfl := Option.some.inj hlabel
    cases resolved with
    | none => rfl
    | some encoding =>
      have hknown := h.resolved label' encoding htarget
      rw [hunknown] at hknown
      cases hknown

theorem addSafe_scratch (c : Char) (e : Encoder L) : (e.addSafe c).2.scratch = e.scratch := by
  unfold addSafe
  split
  · rfl
  · rfl

theorem Sound.addSafe (h : e.Sound) (c : Char) : (e.addSafe c).2.Sound := by
  refine ⟨?_, ?_⟩
  · rw [addSafe_scratch]
    exact h.scratch
  · rw [addSafe_target]
    exact h.resolved

theorem addSafe_error {c : Char} {err : EncodeError} (h : (e.addSafe c).1 = .error err) :
    (e.addSafe c).2 = e := by
  unfold addSafe at h ⊢
  cases hinsert : e.safe.insert? c with
  | some safe =>
    rw [hinsert] at h
    cases h
  | none => rfl

theorem Sound.addSafes (h : e.Sound) (cs : List Char) : (e.addSafes cs).Sound := by
  induction cs generalizing e with
  | nil => exact h
  | cons c cs ih => exact ih (h.addSafe c)

theorem addSafe_forget (c : Char) (e : Encoder L) :
    e.forget.addSafe c = ((e.addSafe c).1, (e.addSafe c).2.forget) := by
  simp only [addSafe, forget]
  cases e.safe.insert? c with
  | some safe => rfl
  | none => rfl

theorem addSafes_concat (cs : List Char) (c : Char) (e : Encoder L) :
    e.addSafes (cs ++ [c]) = ((e.addSafes cs).addSafe c).2 := by
  rw [addSafes, List.foldl_append]
  rfl

theorem addSafe_setTarget (c : Char) (label : String) (e : Encoder L) :
    ((e.setTarget label).addSafe c).2 = (e.addSafe c).2.setTarget label := by
  simp only [addSafe, setTarget]
  cases e.safe.insert? c with
  | some safe => rfl
  | none => rfl

theorem addSafes_setTarget (cs : List Char) (label : String) (e : Encoder L) :
    (e.setTarget label).addSafes cs = (e.addSafes cs).setTarget label := by
  induction cs generalizing e with
  | nil => rfl
  | cons c cs ih =>
    show ((e.setTarget label).addSafe c).2.addSafes cs = _
    rw [addSafe_setTarget, ih]
    rfl

/-! ## One call -/

section Encoding

variable (case : HexCase)

theorem Sound.encodeUnits_left (h : e.Sound) (us : List UInt16) (sink : Sink) :
    (e.encodeUnits case us sink).2.2 = e.lookedUp := by
  rcases htarget : e.target.encoder with ⟨err | encoder, target⟩
  · rw [encodeUnits, Encoder.lookedUp, htarget]
  · rw [encodeUnits_eq htarget, Encoder.lookedUp, htarget, h.scratch, scratchLeft_nil]

theorem Sound.encodeUnits_forget (h : e.Sound) (us : List UInt16) (sink : Sink) :
    e.forget.encodeUnits case us sink = e.encodeUnits case us sink := by
  have hforget : e.forget = { e with target := e.target.forget } := by
    rw [forget, ← h.scratch]
  rw [hforget, encodeUnits, encodeUnits]
  simp only [h.encoder_forget]

theorem encode_eq (e : Encoder L) (text : String) (sink : Sink) :
    e.encode case text sink = e.encodeUnits case (Utf16.units text.toList) sink := rfl

theorem encodeToString_left (e : Encoder L) (text : String) :
    (e.encodeToString case text).2 = (e.encode case text {}).2.2 := by
  rw [encodeToString]
  rcases e.encode case text {} with ⟨err | ⟨⟩, sink, f⟩
  · rfl
  · rfl

end Encoding

/-- **What a call leaves behind**, failed or not. -/
theorem Sound.run_cases (h : e.Sound) (call : Call) :
    (∃ c, call = .addSafe c ∧ (call.run e).2 = (e.addSafe c).2) ∨
      (∃ label, call = .setTarget label ∧ (call.run e).2 = e.setTarget label) ∨
      call.added? = none ∧ call.chosen? = none ∧ (call.run e).2 = e.lookedUp := by
  cases call with
  | addSafe c => exact .inl ⟨c, rfl, rfl⟩
  | setTarget label => exact .inr (.inl ⟨label, rfl, rfl⟩)
  | encodeUnits case us sink => exact .inr (.inr ⟨rfl, rfl, h.encodeUnits_left case us sink⟩)
  | encode case text sink => exact .inr (.inr ⟨rfl, rfl, h.encodeUnits_left case _ sink⟩)
  | encodeToString case text =>
    refine .inr (.inr ⟨rfl, rfl, ?_⟩)
    exact (encodeToString_left case e text).trans (h.encodeUnits_left case _ {})

theorem Sound.run (h : e.Sound) (call : Call) : (call.run e).2.Sound := by
  obtain ⟨c, -, hleft⟩ | ⟨label, -, hleft⟩ | ⟨-, -, hleft⟩ := h.run_cases call
  · rw [hleft]
    exact h.addSafe c
  · rw [hleft]
    exact ⟨h.scratch, fun _ _ h => nomatch h⟩
  · rw [hleft]
    exact h.lookedUp

/-- **No call sees what is forgotten**, and what it leaves differs at most in that. -/
theorem Sound.run_forget (h : e.Sound) (call : Call) :
    (call.run e.forget).1 = (call.run e).1 ∧
      (call.run e.forget).2.forget = (call.run e).2.forget := by
  cases call with
  | addSafe c =>
    rw [Call.run, Call.run, addSafe_forget]
    exact ⟨rfl, forget_forget _⟩
  | setTarget label => exact ⟨rfl, rfl⟩
  | encodeUnits case us sink =>
    simp only [Call.run, h.encodeUnits_forget, and_self]
  | encode case text sink =>
    simp only [Call.run, encode_eq, h.encodeUnits_forget, and_self]
  | encodeToString case text =>
    simp only [Call.run, encodeToString, encode_eq, h.encodeUnits_forget, and_self]

/-- A call chooses and makes safe what it says, and changes nothing else for good. -/
theorem Sound.run_configured (h : e.Sound) {start : Start} {cs : List Char}
    (he : e.forget = (start.encoder.addSafes cs).forget) (call : Call) :
    (call.run e).2.forget
      = ((start.last [call]).encoder.addSafes (cs ++ [call].filterMap Call.added?)).forget := by
  obtain ⟨c, rfl, hleft⟩ | ⟨label, rfl, hleft⟩ | ⟨hadded, hchosen, hleft⟩ := h.run_cases call
  · show _ = (start.encoder.addSafes (cs ++ [c])).forget
    have hforget := congrArg (fun f => (f.addSafe c).2) he
    rw [hleft, addSafes_concat]
    simpa only [addSafe_forget] using hforget
  · show _ = ((Encoder.ofOptions { label }).addSafes (cs ++ [])).forget
    have hnew : (start.encoder : Encoder L).setTarget label = .ofOptions { label } := by
      cases start with
      | ofOptions options => rfl
      | ofCharEncoder encoder => rfl
    rw [hleft, List.append_nil, ← hnew, addSafes_setTarget]
    exact congrArg (Encoder.setTarget label) he
  · have hlast : start.last [call] = start := by
      simp [Start.last, hchosen]
    have hsafes : [call].filterMap Call.added? = [] := by
      simp [hadded]
    rw [hleft, lookedUp_forget, he, hlast, hsafes, List.append_nil]

/-! ## Any calls -/

theorem Sound.after (h : e.Sound) (calls : List Call) : (e.after calls).Sound := by
  induction calls generalizing e with
  | nil => exact h
  | cons call calls ih => exact ih (h.run call)

/-- **Encoders that agree after `forget` reply alike.** -/
theorem replies_eq (he : e.Sound) (hf : f.Sound) (h : e.forget = f.forget) (calls : List Call) :
    e.replies calls = f.replies calls := by
  induction calls generalizing e f with
  | nil => rfl
  | cons call calls ih =>
    obtain ⟨hereply, heleft⟩ := he.run_forget call
    obtain ⟨hfreply, hfleft⟩ := hf.run_forget call
    rw [h] at hereply heleft
    have hreply : (call.run e).1 = (call.run f).1 := hereply.symm.trans hfreply
    have hleft : (call.run e).2.forget = (call.run f).2.forget := heleft.symm.trans hfleft
    rw [replies, replies, hreply, ih (he.run call) (hf.run call) hleft]

/-- **Calls configure** an encoder as they say, in whatever order and with whatever between them.
The induction is over calls after which `start` and `cs` say how the encoder is configured. -/
theorem Sound.after_configured (h : e.Sound) {start : Start} {cs : List Char}
    (he : e.forget = (start.encoder.addSafes cs).forget) (calls : List Call) :
    (e.after calls).forget
      = ((start.last calls).encoder.addSafes (cs ++ calls.filterMap Call.added?)).forget := by
  induction calls generalizing e start cs with
  | nil =>
    rw [List.filterMap_nil, List.append_nil]
    exact he
  | cons call calls ih =>
    have hafter := ih (h.run call) (h.run_configured he call)
    rw [List.append_assoc, ← List.filterMap_append, ← Start.last_cons] at hafter
    exact hafter

theorem Sound.after_unknown (h : e.Sound) {label : String} (htarget : e.target = .named label none)
    (hlabel : L.ofLabel? label = none) {calls : List Call}
    (hcalls : ∀ call ∈ calls, call.chosen? = none) :
    (e.after calls).target = .named label none := by
  induction calls generalizing e with
  | nil => exact htarget
  | cons call calls ih =>
    have htarget' : (call.run e).2.target = .named label none := by
      obtain ⟨c, rfl, hleft⟩ | ⟨label', rfl, hleft⟩ | ⟨-, -, hleft⟩ := h.run_cases call
      · rw [hleft, addSafe_target]
        exact htarget
      · cases hcalls _ List.mem_cons_self
      · rw [hleft, Encoder.lookedUp, htarget]
        simp [Target.encoder, resolve, hlabel]
    apply ih (h.run call) htarget'
    intro call hcall
    exact hcalls call (List.mem_cons_of_mem _ hcall)

end Encoder

theorem Start.sound (start : Start) : (start.encoder : Encoder L).Sound := by
  cases start with
  | ofOptions options => exact ⟨rfl, fun _ _ h => nomatch h⟩
  | ofCharEncoder encoder => exact ⟨rfl, fun _ _ h => nomatch h⟩

/-- **An encoder keeps no history.** Whatever calls were made of it, and whether they failed or not,
it replies like a new encoder with the same label or character encoder and the same safe characters.
An unknown label fails every call until another is chosen, and a character that cannot be made safe
changes nothing. -/
theorem encoder_keeps_no_history {L : EncodingLibrary} (start : Start) (calls : List Call) :
    let e : Encoder L := start.encoder.after calls
    let new : Encoder L := start.configured calls
    e.Sound ∧ e.safe = new.safe ∧ e.target.forget = new.target.forget ∧
      (∀ later, e.replies later = new.replies later) ∧
      (∀ label, e.target.label? = some label → L.ofLabel? label = none →
        ∀ later : List Call, (∀ call ∈ later, call.chosen? = none) →
          let e := e.after later
          (∀ case us sink, e.encodeUnits case us sink = (.error (.unknownLabel label), sink, e)) ∧
            (∀ case text sink, e.encode case text sink = (.error (.unknownLabel label), sink, e)) ∧
            ∀ case text, e.encodeToString case text = ("", e)) ∧
      ∀ c err, (e.addSafe c).1 = .error err → (e.addSafe c).2 = e := by
  intro e new
  have hsound : e.Sound := start.sound.after calls
  have hstart : (start.encoder : Encoder L).forget = (start.encoder.addSafes []).forget := rfl
  have hforget : e.forget = new.forget := start.sound.after_configured hstart calls
  have hsafe : e.forget.safe = new.forget.safe := by rw [hforget]
  have htarget : e.forget.target = new.forget.target := by rw [hforget]
  refine ⟨hsound, hsafe, htarget, ?_, ?_, ?_⟩
  · exact Encoder.replies_eq hsound ((start.last calls).sound.addSafes _) hforget
  · intro label hlabel hunknown later hlater e'
    have htarget : e.target = .named label none := hsound.unknown hlabel hunknown
    have htarget' : e'.target = .named label none := hsound.after_unknown htarget hunknown hlater
    have hencode (case : HexCase) (us : List UInt16) (sink : Sink) :
        e'.encodeUnits case us sink = (.error (.unknownLabel label), sink, e') :=
      encodeUnits_unknown htarget' hunknown case us sink
    refine ⟨hencode, fun case text sink => hencode case _ sink, ?_⟩
    intro case text
    rw [Encoder.encodeToString, Encoder.encode_eq, hencode]
  · intro c err
    exact Encoder.addSafe_error

/-- A character that cannot be safe, one that is refused, a sink that is full within an escape, a
label that means nothing, and one that does. -/
theorem encoder_keeps_no_history_unknown :
    let start : Start := .ofCharEncoder (utf8Spoiling 'é')
    let calls : List Call := [.addSafe '/', .addSafe 'é', .encode .upper "/é" {},
      .encode .upper "a b" { room := some 2 }, .setTarget "klingon", .encodeToString .upper "a"]
    let e : Encoder .own := start.encoder.after calls
    let later : List Call := [.addSafe '?']
    (e.target.label? = some "klingon" ∧ EncodingLibrary.own.ofLabel? "klingon" = none ∧
      (∀ call ∈ later, call.chosen? = none) ∧ (e.addSafe 'é').1 = .error (.notAscii 'é')) ∧
    (e.after later).encode .upper "" {} = (.error (.unknownLabel "klingon"), {}, e.after later) ∧
      (e.addSafe 'é').2 = e ∧
      e.replies [.setTarget "latin1", .encodeToString .lower "/é"] = [.done, .text "/%e9"] := by
  intro start calls e later
  have hlabel : e.target.label? = some "klingon" := by decide +kernel
  have hunknown : EncodingLibrary.own.ofLabel? "klingon" = none := by decide +kernel
  have hlater : ∀ call ∈ later, call.chosen? = none := by decide
  have hadd : (e.addSafe 'é').1 = .error (.notAscii 'é') := by
    simp [Encoder.addSafe, AsciiSet.insert?]
  obtain ⟨-, -, -, hreplies, hencode, hsafe⟩ := encoder_keeps_no_history (L := .own) start calls
  obtain ⟨-, hencode, -⟩ := hencode "klingon" hlabel hunknown later hlater
  refine ⟨⟨hlabel, hunknown, hlater, hadd⟩, hencode .upper "" {}, hsafe 'é' _ hadd, ?_⟩
  let new : Encoder .own := start.configured calls
  have htext : ((new.setTarget "latin1").encodeToString .lower "/é").1
      = "/%e9" := by decide +kernel
  rw [hreplies, ← htext]
  rfl

end CharStream.Percent
