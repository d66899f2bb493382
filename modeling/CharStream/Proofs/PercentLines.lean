import CharStream.PercentLines
import CharStream.Proofs.DecodedText
import CharStream.Proofs.OwnEncodings
import CharStream.Proofs.PercentText
import CharStream.Proofs.SplitLines

/-!
# The whole chain, from bytes to encoded lines

What a run writes is a function of the bytes of its input: they are decoded, the text is split, and
each line is written in its encoded form with a line feed. The decoder's chunks, the replay buffer,
the scan buffer and the scratch bytes of the encoder leave no trace.

**The lines.** Where the input ends they are those of `Line.split`. Where it fails they are those of
`Line.complete`, of the text that the bytes before the failure complete.

**The fuel** of a run is no limit if it is more than the text is long, since every line takes a
character of the text.

* `encodeLines_known`, `encodeLines_unknown` — the loop, for a target that is known or is not.
* `run_writes_lines` — a run, for any arguments and any way in which the input arrives.
-/

namespace CharStream.PercentLines

open Percent (escape)

variable {L : EncodingLibrary}

/-! ## What is to be written -/

/-- The form of a character: an unreserved one and the slash stand for themselves, any other is the
upper-case escapes of its bytes. -/
def charForm (target : L.Encoding) (c : Char) : List Char :=
  if AsciiSet.unreserved.contains c || c = '/' then [c] else escape .upper (L.bytesOf target c)

/-- The form of a line, with its line feed. -/
def lineForm (target : L.Encoding) (line : String) : List Char :=
  line.toList.flatMap (charForm target) ++ ['\n']

/-- The forms of lines, one after the other. -/
def linesForm (target : L.Encoding) (lines : List String) : String :=
  String.ofList (lines.flatMap (lineForm target))

theorem linesForm_cons (target : L.Encoding) (line : String) (lines : List String) :
    linesForm target (line :: lines) =
      String.ofList (line.toList.flatMap (charForm target)) ++ "\n" ++ linesForm target lines := by
  rw [linesForm, List.flatMap_cons, String.ofList_append, lineForm, String.ofList_append]
  rfl

theorem charForm_encoder (label : String) (target : L.Encoding) :
    Percent.charForm (encoder (L := L) label).safe .upper (L.bytesOf target) = charForm target := by
  obtain ⟨safe, hsafe⟩ : ∃ safe, AsciiSet.unreserved.insert? '/' = some safe := ⟨_, rfl⟩
  have hencoder : (encoder (L := L) label).safe = safe := by
    simp [encoder, Percent.Encoder.addSafe, Percent.Encoder.setTarget, hsafe]
  funext c
  rw [hencoder, Percent.charForm, charForm, AsciiSet.contains_insert hsafe]

/-! ## What is left of the input -/

/-- The text that is left of an input, and how it stops: a part of it may lie in the replay buffer,
and the decoded reader delivers the rest. -/
def Input.Left (w : Input L) (text : List Char) (stop : Option ByteFault) : Prop :=
  w.options = .default ∧ ∃ ahead rest r, text = ahead ++ rest ∧
    ReplayBuffer.Holds 4097 w.source ahead r ∧ Delivers r rest stop

theorem input_left (hL : L.Streams) (hroom : L.Suffices DecodedReader.chunkSize)
    (stdin : ByteScript) (encoding : L.Encoding) :
    (input stdin encoding).Left (stdin.text (L.newDecoder encoding)) stdin.contents.2 :=
  ⟨rfl, [], _, _, rfl, ⟨rfl, rfl, rfl⟩, DecodedReader.delivers hL hroom stdin encoding⟩

theorem Input.Left.nextLine {w : Input L} {text : List Char} {stop : Option ByteFault} {fuel : Nat}
    (h : w.Left text stop) (hfuel : text.length < fuel) :
    ∃ x, ∃ w' : Input L, LineScanner.nextLine fuel w = some (x, w') ∧
      ((∃ line text', x = .ok (some line) ∧ w'.Left text' stop ∧
          Line.readable stop text = line :: Line.readable stop text' ∧
          text'.length < text.length) ∨
        Line.readable stop text = [] ∧
          (stop = none ∧ x = .ok none ∨ ∃ f, stop = some f ∧ x = .error (.source (.read f)))) := by
  obtain ⟨hoptions, ahead, rest, r, rfl, hb, hr⟩ := h
  have hserves := replayBuffer_serves (ρ := DecodedReader L) (show 4097 ≤ Count.largest by decide)
  have hsupports : w.options.maxLineLength < 4097 := by
    rw [hoptions]
    decide
  obtain ⟨x, w', hcall, hoptions', hline⟩ := hserves.nextLine_readable hsupports hb hr hfuel
  refine ⟨x, w', hcall, ?_⟩
  rcases hline with ⟨line, a, t, r', hx, hb', hr', hlines, hlt⟩ | ⟨hlines, hend⟩
  · exact .inl ⟨line, a ++ t, hx, ⟨hoptions'.trans hoptions, a, t, r', rfl, hb', hr'⟩, hlines, hlt⟩
  · rcases hend with ⟨hstop, hx, -⟩ | ⟨f, hstop, hx⟩
    · exact .inr ⟨hlines, .inl ⟨hstop, hx⟩⟩
    · exact .inr ⟨hlines, .inr ⟨f, hstop, hx⟩⟩

/-! ## The loop -/

/-- What becomes of a run whose input stops so. -/
def failureOf (stop : Option ByteFault) : Option Failure :=
  stop.map fun f => .read (.source (.read f))

theorem encodeLines_known {target : L.Encoding} {label : String} {fuel : Nat} {w : Input L}
    {e : Percent.Encoder L} {text : List Char} {stop : Option ByteFault} (h : w.Left text stop)
    (hfuel : text.length < fuel) (he : e.Maps (L.bytesOf target))
    (hsafe : e.safe = (encoder (L := L) label).safe) (out : String) :
    encodeLines fuel w e out
      = some (failureOf stop, out ++ linesForm target (Line.readable stop text)) := by
  -- Every line takes a character, so the fuel outlasts the text.
  induction fuel generalizing w e text out with
  | zero => exact absurd hfuel (Nat.not_lt_zero _)
  | succ fuel ih =>
    obtain ⟨x, w', hcall, hline⟩ := h.nextLine hfuel
    rw [encodeLines, hcall]
    rcases hline with ⟨line, text', rfl, h', hlines, hlt⟩ | ⟨hlines, hend⟩
    · obtain ⟨e', hencode, hsafe', he'⟩ := he.encode .upper line
      have htail := ih h' (show text'.length < fuel by omega) he' (hsafe'.trans hsafe)
      rw [hsafe, charForm_encoder] at hencode
      simp only [hencode, htail, hlines, linesForm_cons, String.append_assoc]
    · rw [hlines]
      rcases hend with ⟨rfl, rfl⟩ | ⟨f, rfl, rfl⟩
      · simp [failureOf, linesForm]
      · simp [failureOf, linesForm]

theorem encodeLines_unknown {label : String} (hlabel : L.ofLabel? label = none) {fuel : Nat}
    {w : Input L} {text : List Char} {stop : Option ByteFault} (h : w.Left text stop)
    (hfuel : text.length < fuel) (out : String) :
    encodeLines fuel w (encoder label) out
      = some (if Line.readable stop text = [] then failureOf stop
          else some (.encode (.unknownLabel label)), out) := by
  obtain ⟨fuel, rfl⟩ := Nat.exists_eq_succ_of_ne_zero (Nat.ne_of_gt (Nat.zero_lt_of_lt hfuel))
  obtain ⟨x, w', hcall, hline⟩ := h.nextLine hfuel
  rw [encodeLines, hcall]
  rcases hline with ⟨line, text', rfl, -, hlines, -⟩ | ⟨hlines, hend⟩
  · have htarget : (encoder (L := L) label).target = .named label none := rfl
    simp only [Percent.encode_unknown htarget hlabel]
    rw [hlines, if_neg (List.cons_ne_nil _ _)]
  · rw [if_pos hlines]
    rcases hend with ⟨rfl, rfl⟩ | ⟨f, rfl, rfl⟩
    · rfl
    · rfl

/-! ## A run -/

theorem Outcome.stdout_of (failure : Option Failure) (out : String) :
    (Outcome.of (failure, out)).stdout = out := by
  cases failure with
  | none => rfl
  | some failure => rfl

theorem Outcome.code_of (failure : Option Failure) (out : String) :
    (Outcome.of (failure, out)).code ≠ 0 ↔ failure ≠ none := by
  cases failure with
  | none => simp [Outcome.of]
  | some failure => simp [Outcome.of]

/-- With an unknown target, an input that ends makes the run fail if it has a line. -/
theorem failure_iff_lines (label : String) (text : List Char) :
    (if Line.readable (none : Option ByteFault) text = [] then failureOf none
      else some (.encode (.unknownLabel label))) ≠ none ↔ Line.split text ≠ [] := by
  show (if Line.split text = [] then none else some (Failure.encode (.unknownLabel label))) ≠ none
    ↔ Line.split text ≠ []
  by_cases hlines : Line.split text = []
  · simp [hlines]
  · simp [hlines]

/-- The encoding that the arguments ask for: that of the first label, and UTF-8 without one. -/
def AskFor (L : EncodingLibrary) : List String → L.Encoding → Prop
  | [], encoding => encoding = L.utf8
  | label :: _, encoding => L.ofLabel? label = some encoding

theorem AskFor.inputEncoding {args : List String} {encoding : L.Encoding}
    (h : AskFor L args encoding) : inputEncoding L args = .ok encoding := by
  cases args with
  | nil => exact congrArg Except.ok (Eq.symm h)
  | cons label args =>
    have hlabel : L.ofLabel? label = some encoding := h
    rw [PercentLines.inputEncoding, hlabel]

theorem targetLabel_eq (args : List String) : targetLabel args = args[1]?.getD "utf-8" := by
  match args with
  | [] => rfl
  | [_] => rfl
  | _ :: _ :: _ => rfl

section Run

variable (hL : L.Streams) (hroom : L.Suffices DecodedReader.chunkSize) {args : List String}
  {encoding : L.Encoding} (hargs : AskFor L args encoding) {fuel : Nat} {stdin : ByteScript}
  (hfuel : (stdin.text (L.newDecoder encoding)).length < fuel)
include hL hroom hargs hfuel

theorem run_known {target : L.Encoding} (hkeeps : L.Keeps (L.output target))
    (htarget : L.ofLabel? (args[1]?.getD "utf-8") = some target) :
    run L fuel args stdin = some (Outcome.of (failureOf stdin.contents.2,
      linesForm target
        (Line.readable stdin.contents.2 (stdin.text (L.newDecoder encoding))))) := by
  rw [← targetLabel_eq] at htarget
  have hwrites : (encoder (L := L) (targetLabel args)).Writes target :=
    ⟨targetLabel args, .inr ⟨rfl, htarget⟩⟩
  have hloop := encodeLines_known (input_left hL hroom stdin encoding) hfuel
    (hwrites.maps hkeeps) rfl ""
  rw [String.empty_append] at hloop
  rw [run, hargs.inputEncoding]
  simp only [hloop, Option.map_some]

theorem run_unknown (htarget : L.ofLabel? (args[1]?.getD "utf-8") = none) :
    run L fuel args stdin = some (Outcome.of
      (if Line.readable stdin.contents.2 (stdin.text (L.newDecoder encoding)) = []
        then failureOf stdin.contents.2
        else some (.encode (.unknownLabel (args[1]?.getD "utf-8"))), "")) := by
  rw [← targetLabel_eq] at htarget ⊢
  have hloop := encodeLines_unknown htarget (input_left hL hroom stdin encoding) hfuel ""
  rw [run, hargs.inputEncoding]
  simp only [hloop, Option.map_some]

end Run

/-- **A run, from bytes to encoded lines**, however the bytes are cut and interrupted. If the input
ends, the lines of the decoded text are written; if it fails, those whose terminators the bytes
before the failure complete. An unknown target fails at the first line, if there is one, and an
unknown encoding of the input before anything is read. -/
theorem run_writes_lines (hL : L.Streams) (hroom : L.Suffices DecodedReader.chunkSize)
    (hkeeps : ∀ encoding, L.Keeps (L.output encoding)) (args : List String) {items : ByteScript}
    (hitems : ∀ item ∈ items, item.GoesOn) :
    let bytes := items.flatMap ByteItem.payload
    let label := args[1]?.getD "utf-8"
    (∀ encoding, AskFor L args encoding →
      let atEnd := L.decodeAll (L.newDecoder encoding) bytes
      let soFar := (L.feed (L.newDecoder encoding) bytes).1
      (∀ target, L.ofLabel? label = some target →
        (∀ rest : ByteScript, rest.AtEnd → ∀ fuel > atEnd.length,
          run L fuel args (items ++ rest) = some
            { code := 0, stdout := linesForm target (Line.split atEnd), stderr := "" }) ∧
        ∀ (f : ByteFault) (rest : ByteScript), f.kind ≠ .interrupted → ∀ fuel > soFar.length,
          run L fuel args (items ++ .fault f :: rest) = some
            { code := 1, stdout := linesForm target (Line.complete soFar),
              stderr := "Error: " ++ describeLine (.source (.read f)) ++ "\n" }) ∧
      (L.ofLabel? label = none → ∀ rest : ByteScript, rest.AtEnd → ∀ fuel > atEnd.length,
        ∃ o, run L fuel args (items ++ rest) = some o ∧ o.stdout = "" ∧
          (o.code ≠ 0 ↔ Line.split atEnd ≠ []))) ∧
    ∀ label, args.head? = some label → L.ofLabel? label = none → ∀ fuel stdin,
      run L fuel args stdin = some
        { code := 1, stdout := "",
          stderr := "Error: " ++
            Text.quoted ("unknown input encoding " ++ Text.quoted label) ++ "\n" } := by
  intro bytes label
  refine ⟨fun encoding hargs => ⟨fun target htarget => ⟨?_, ?_⟩, ?_⟩, ?_⟩
  · intro rest hrest fuel hfuel
    have hcontents := ByteScript.contents_to_end hitems hrest
    have htext := ByteScript.text_to_end hcontents (L.newDecoder encoding)
    rw [run_known hL hroom hargs (htext ▸ hfuel) (hkeeps target) htarget, htext, hcontents]
    rfl
  · intro f rest hf fuel hfuel
    have hcontents := ByteScript.contents_to_fault hitems hf rest
    have htext := ByteScript.text_to_fault hcontents (L.newDecoder encoding)
    rw [run_known hL hroom hargs (htext ▸ hfuel) (hkeeps target) htarget, htext, hcontents]
    rfl
  · intro htarget rest hrest fuel hfuel
    have hcontents := ByteScript.contents_to_end hitems hrest
    have htext := ByteScript.text_to_end hcontents (L.newDecoder encoding)
    refine ⟨_, run_unknown hL hroom hargs (htext ▸ hfuel) htarget, Outcome.stdout_of _ _, ?_⟩
    rw [Outcome.code_of, htext, hcontents]
    exact failure_iff_lines label _
  · intro label hlabel hunknown fuel stdin
    obtain ⟨rest, rfl⟩ := List.head?_eq_some_iff.1 hlabel
    rw [run, inputEncoding, hunknown]
    rfl

/-- A byte that is a character of its own in the input's encoding, with an interruption behind it,
and a last line that is lost if the input fails behind its carriage return; then a target and an
input that are unknown. -/
theorem run_writes_lines_cut :
    let items : ByteScript :=
      [.bytes [0x61, 0x0A, 0xE9], .fault ⟨.interrupted, "again"⟩, .bytes [0x2F, 0x20, 0x0D]]
    let own : EncodingLibrary := .own
    (own.Streams ∧ own.Suffices DecodedReader.chunkSize ∧
      (∀ encoding, own.Keeps (own.output encoding)) ∧ (∀ item ∈ items, item.GoesOn) ∧
      AskFor own ["latin1"] (.singleByte .windows1252) ∧ own.ofLabel? "utf-8" = some .utf8) ∧
      run own 9 ["latin1"] items
        = some { code := 0, stdout := "a\n%C3%A9/%20\n", stderr := "" } ∧
      run own 9 ["latin1"] (items ++ [.fault ⟨.other, "gone"⟩]) = some
        { code := 1, stdout := "a\n",
          stderr := "Error: Source(Read(Custom \x7b kind: Other, error: \"gone\" \x7d))\n" } ∧
      (∃ o, run own 9 ["latin1", "?"] items = some o ∧ o.stdout = "" ∧ o.code ≠ 0) ∧
      run own 9 ["?"] items = some
        { code := 1, stdout := "", stderr := "Error: \"unknown input encoding \\\"?\\\"\"\n" } := by
  intro items own
  have hL := EncodingLibrary.own_streams
  have hroom := EncodingLibrary.own_suffices DecodedReader.chunkSize
  have hkeeps (encoding) : EncodingLibrary.own.Keeps (EncodingLibrary.own.output encoding) :=
    EncodingLibrary.own_keeps _
  have hitems : ∀ item ∈ items, item.GoesOn := by
    simp [items, ByteItem.GoesOn]
  have hargs : AskFor .own ["latin1"] (.singleByte .windows1252) := by
    show Encoding.ofLabel? "latin1" = some (.singleByte .windows1252)
    decide +kernel
  have hargs' : AskFor .own ["latin1", "?"] (.singleByte .windows1252) := hargs
  have htarget : EncodingLibrary.own.ofLabel? "utf-8" = some .utf8 := by decide +kernel
  have hunknown : EncodingLibrary.own.ofLabel? "?" = none := by decide +kernel
  obtain ⟨hends, hfails⟩ :=
    ((run_writes_lines hL hroom hkeeps ["latin1"] hitems).1 _ hargs).1 .utf8 htarget
  refine ⟨⟨hL, hroom, hkeeps, hitems, hargs, htarget⟩, ?_, ?_, ?_, ?_⟩
  · refine (hends [] (.inl rfl) 9 (by decide +kernel)).trans ?_
    decide +kernel
  · refine (hfails ⟨.other, "gone"⟩ [] (by decide) 9 (by decide +kernel)).trans ?_
    decide +kernel
  · obtain ⟨o, ho, hout, hcode⟩ :=
      ((run_writes_lines hL hroom hkeeps ["latin1", "?"] hitems).1 _ hargs').2 hunknown []
        (.inl rfl) 9 (by decide +kernel)
    exact ⟨o, ho, hout, hcode.2 (by decide +kernel)⟩
  · refine ((run_writes_lines hL hroom hkeeps ["?"] hitems).2 "?" rfl hunknown 9 items).trans ?_
    decide +kernel

end CharStream.PercentLines
