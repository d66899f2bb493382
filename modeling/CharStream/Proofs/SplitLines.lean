import CharStream.Line.Split
import CharStream.Proofs.NextLine

/-!
# Lines read are lines split

Over a source that delivers a text and does not fail, a line scanner gives the lines of `Line.split`
and then no more. How long its buffer is, whether it is exchanged for another between two calls, and
in which pieces the text comes make no difference. Where the stream fails, the lines are those of
`Line.complete`: the last one is lost unless its terminator is known to be whole.

* `Line.readable_line` — the yardsticks split off what one call takes.
* `Serves.nextLine_readable` — one call gives the first line that is left, and leaves the others.
* `answers_eq_split` — any number of calls, over a text in memory and over a replay buffer.
-/

namespace CharStream

open Line (Unbroken Terminator split splitFrom)

variable {σ ρ ε ε' : Type}

/-! ## The yardsticks -/

namespace Line

/-- What gathers the characters of a line one by one gathers all of them. -/
theorem gather_unbroken {α : Type} {f : List Char → List Char → α}
    (hf : ∀ c, c ≠ '\r' ∧ c ≠ '\n' → ∀ current cs, f current (c :: cs) = f (c :: current) cs)
    {line : List Char} (h : Unbroken line) (current cs : List Char) :
    f current (line ++ cs) = f (line.reverse ++ current) cs := by
  induction line generalizing current with
  | nil => rfl
  | cons c line ih =>
    have hline : Unbroken line := by
      intro d hd
      exact h d (List.mem_cons_of_mem c hd)
    rw [List.cons_append, hf c (h c List.mem_cons_self), ih hline]
    simp

theorem splitFrom_cons (c : Char) (hc : c ≠ '\r' ∧ c ≠ '\n') (current cs : List Char) :
    splitFrom current (c :: cs) = splitFrom (c :: current) cs := by
  rw [splitFrom]
  · rintro cs rfl
    exact absurd rfl hc.1
  · exact hc.1
  · exact hc.2

theorem splitFrom_terminator {t rest : List Char} (h : Terminator t rest) (current : List Char) :
    splitFrom current (t ++ rest) = String.ofList current.reverse :: split rest := by
  cases h with
  | lf => rfl
  | crlf => rfl
  | @cr c rest hc =>
    show splitFrom current ('\r' :: c :: rest) = _
    rw [splitFrom, split]
    intro cs hcs
    exact absurd (List.cons.inj hcs).1 hc

/-- Splits a text whose end is not the end of the stream. A line counts if its terminator is whole:
a carriage return only if it is known what comes after it. -/
def completeFrom (current : List Char) : List Char → List String
  | [] => []
  | ['\r'] => []
  | '\r' :: '\n' :: cs => String.ofList current.reverse :: completeFrom [] cs
  | '\r' :: cs => String.ofList current.reverse :: completeFrom [] cs
  | '\n' :: cs => String.ofList current.reverse :: completeFrom [] cs
  | c :: cs => completeFrom (c :: current) cs

/-- The lines of a text that have whole terminators. -/
def complete (text : List Char) : List String := completeFrom [] text

theorem completeFrom_cons (c : Char) (hc : c ≠ '\r' ∧ c ≠ '\n') (current cs : List Char) :
    completeFrom current (c :: cs) = completeFrom (c :: current) cs := by
  rw [completeFrom]
  · rintro rfl
    exact absurd rfl hc.1
  · rintro cs rfl
    exact absurd rfl hc.1
  · exact hc.1
  · exact hc.2

theorem completeFrom_terminator {t rest : List Char} (h : Terminator t rest)
    (current : List Char) :
    completeFrom current (t ++ rest) = String.ofList current.reverse :: complete rest := by
  cases h with
  | lf => rfl
  | crlf => rfl
  | @cr c rest hc =>
    show completeFrom current ('\r' :: c :: rest) = _
    rw [completeFrom, complete]
    · exact List.cons_ne_nil c rest
    · intro cs hcs
      exact absurd (List.cons.inj hcs).1 hc

theorem complete_unfinished {line t : List Char} (h : Unbroken line) (ht : t = [] ∨ t = ['\r']) :
    complete (line ++ t) = [] := by
  rw [complete, gather_unbroken completeFrom_cons h]
  rcases ht with rfl | rfl
  · rfl
  · rfl

-- The last line is lost: a line feed might have come.
example : complete "a\r\nb\rc\r".toList = ["a", "b"] := rfl

/-- The lines that can be read of a text where the stream ends, or fails with `stop`. -/
def readable (stop : Option ε) (text : List Char) : List String :=
  match stop with
  | none => split text
  | some _ => complete text

/-- **One line comes off the front**, also where the end of the stream is what ends it. -/
theorem readable_line {stop : Option ε} {ps : List (List Char)} {line t ahead text : List Char}
    (hun : Unbroken line) (hne : line ++ t ≠ []) (h : LineEnd ps t ahead)
    (hended : Ended ps → text = [] ∧ stop = none) :
    readable stop (line ++ t ++ (ahead ++ text))
      = String.ofList line :: readable stop (ahead ++ text) := by
  rw [List.append_assoc]
  cases h with
  | terminator ht =>
    cases stop with
    | none =>
      rw [readable, split, gather_unbroken splitFrom_cons hun,
        splitFrom_terminator (ht.append text)]
      simp [readable]
    | some e =>
      rw [readable, complete, gather_unbroken completeFrom_cons hun,
        completeFrom_terminator (ht.append text)]
      simp [readable]
  | closing hps =>
    obtain ⟨rfl, rfl⟩ := hended hps
    rw [readable, split, gather_unbroken splitFrom_cons hun]
    simp [readable, splitFrom, split]
  | last hps =>
    obtain ⟨rfl, rfl⟩ := hended hps
    have hline : line ≠ [] := by simpa using hne
    rw [readable, split, gather_unbroken splitFrom_cons hun]
    simp [readable, splitFrom, split, hline]

end Line

/-! ## One call -/

/-- **One call over a text** gives the first line that can be read, and leaves the others. If there
is none, it answers as the stream does. -/
theorem Serves.nextLine_readable [Rewindable σ ε'] [Reader ρ ε] {wrap : ε → ε'}
    {Supports : LineOptions → Prop} {Holds : σ → List Char → ρ → Prop}
    (hS : Serves wrap Supports Holds) {fuel : Nat} {w : LineScanner σ} {ahead text : List Char}
    {r : ρ} {stop : Option ε} (ho : Supports w.options) (hw : Holds w.source ahead r)
    (hr : Delivers r text stop) (hfuel : (ahead ++ text).length < fuel) :
    ∃ x w', w.nextLine fuel = some (x, w') ∧ w'.options = w.options ∧
      ((∃ line ahead' text' r', x = .ok (some line) ∧ Holds w'.source ahead' r' ∧
          Delivers r' text' stop ∧
          Line.readable stop (ahead ++ text) = line :: Line.readable stop (ahead' ++ text') ∧
          (ahead' ++ text').length < (ahead ++ text).length) ∨
        Line.readable stop (ahead ++ text) = [] ∧
          ((stop = none ∧ x = .ok none ∧ ∃ r', Holds w'.source [] r' ∧ Delivers r' [] none) ∨
            ∃ e, stop = some e ∧ x = .error (.source (wrap e)))) := by
  obtain ⟨x, w', h⟩ := hS.nextLine_isSome ho hw hr hfuel
  obtain ⟨hoptions, handed, ahead', r', hw', hline⟩ := hS.nextLine_cases ho hw h
  refine ⟨x, w', h, hoptions, ?_⟩
  cases hline with
  | @line ps line t _ _ _ hps hcons hun hne hend =>
    obtain ⟨text', rfl, hr', hended⟩ := hr.reads hps
    have htext : ahead ++ (ps.flatten ++ text') = line ++ t ++ (ahead' ++ text') := by
      rw [← List.append_assoc, hcons, List.append_assoc]
    have hlen : _ = (line ++ t).length + (ahead' ++ text').length :=
      (congrArg List.length htext).trans List.length_append
    have hpos := List.length_pos_iff.2 hne
    refine .inl ⟨String.ofList line, ahead', text', r', rfl, hw', hr', ?_, by omega⟩
    rw [htext]
    exact Line.readable_line hun hne hend hended
  | @nothing ps _ _ hps hahead hflat hended =>
    obtain ⟨text', rfl, hr', hstop⟩ := hr.reads hps
    obtain ⟨rfl, rfl⟩ := hstop hended
    refine .inr ⟨?_, .inl ⟨rfl, rfl, r', hw', hr'⟩⟩
    rw [hahead, hflat]
    rfl
  | @failed ps e k spilled kept r₁ _ hps hf hcons hun _ _ hkept =>
    obtain ⟨text', rfl, hr', -⟩ := hr.reads hps
    obtain ⟨rfl, rfl⟩ := hr'.fails hf
    refine .inr ⟨?_, .inr ⟨e, rfl, rfl⟩⟩
    rw [List.append_nil, hcons, Line.readable]
    rcases hkept with hkept | ⟨line, rfl, hline⟩
    · simpa using Line.complete_unfinished (hun.append hkept) (.inl rfl)
    · rw [← List.append_assoc]
      exact Line.complete_unfinished (hun.append hline) (.inr rfl)

/-! ## Any number of calls -/

namespace LineScanner

/-- A scanner over the same source, with other options if there are any, and a buffer of its own. -/
def reopen (w : LineScanner σ) : Option LineOptions → LineScanner σ
  | none => w
  | some options => { source := w.source, options }

/-- The answers to as many calls as the plan is long. Before each the scanner may be reopened. -/
def answers [Rewindable σ ε] (fuel : Nat) :
    List (Option LineOptions) → LineScanner σ → Option (List (Except (LineError ε) (Option String)))
  | [], _ => some []
  | o :: plan, w =>
    match (w.reopen o).nextLine fuel with
    | none => none
    | some (x, w) => (answers fuel plan w).map (x :: ·)

end LineScanner

theorem Serves.answers_split [Rewindable σ ε'] [Reader ρ ε] {wrap : ε → ε'}
    {Supports : LineOptions → Prop} {Holds : σ → List Char → ρ → Prop}
    (hS : Serves wrap Supports Holds) {fuel : Nat} {plan : List (Option LineOptions)}
    {w : LineScanner σ} {ahead text : List Char} {r : ρ} (ho : Supports w.options)
    (hplan : ∀ o, some o ∈ plan → Supports o) (hw : Holds w.source ahead r)
    (hr : Delivers r text none) (hfuel : (ahead ++ text).length < fuel) :
    w.answers fuel plan
      = some ((List.range plan.length).map fun k => .ok (split (ahead ++ text))[k]?) := by
  induction plan generalizing w ahead text r with
  | nil => rfl
  | cons o plan ih =>
    have ho' : Supports (w.reopen o).options := by
      cases o with
      | none => exact ho
      | some o => exact hplan o List.mem_cons_self
    have hw' : Holds (w.reopen o).source ahead r := by
      cases o <;> exact hw
    have hplan' : ∀ o, some o ∈ plan → Supports o := by
      intro o hmem
      exact hplan o (List.mem_cons_of_mem _ hmem)
    obtain ⟨x, w₁, hcall, hoptions, hline⟩ := hS.nextLine_readable ho' hw' hr hfuel
    rw [LineScanner.answers, hcall]
    rcases hline with ⟨line, a₁, text₁, r₁, rfl, hw₁, hr₁, hlines, hlt⟩ | ⟨hlines, hend⟩
    · have htail := ih (hoptions ▸ ho') hplan' hw₁ hr₁ (Nat.lt_trans hlt hfuel)
      rw [Line.readable] at hlines
      simp only [htail, hlines, Option.map_some, List.length_cons, List.range_succ_eq_map,
        List.map_cons, List.map_map, Function.comp_def, List.getElem?_cons_zero,
        List.getElem?_cons_succ, Line.readable]
    · rcases hend with ⟨-, rfl, r₁, hw₁, hr₁⟩ | ⟨e, hstop, -⟩
      · have htail := ih (hoptions ▸ ho') hplan' hw₁ hr₁ (Nat.lt_of_le_of_lt (Nat.zero_le _) hfuel)
        rw [Line.readable] at hlines
        simp only [htail, hlines, Option.map_some, List.length_cons, List.range_succ_eq_map,
          List.map_cons, List.map_map, Function.comp_def, List.append_nil, List.getElem?_nil]
        rfl
      · cases hstop

/-- **Lines read are lines split.** Call number `k` answers with line number `k` of the text, and
with none after the last, over the text in memory as over a replay buffer whose reader delivers it.
A buffer of any length will do, also one exchanged between the calls, if the replay buffer can hold
one character more. -/
theorem answers_eq_split (text : String) (options : LineOptions) (plan : List (Option LineOptions))
    {fuel : Nat} (hfuel : text.length < fuel) :
    ({ source := TextSource.ofString text, options } : LineScanner TextSource).answers fuel plan
        = some ((List.range plan.length).map fun k => .ok (split text.toList)[k]?) ∧
      ∀ (ρ ε : Type) [Reader ρ ε] (inner : ρ) (capacity : Nat),
        Delivers inner text.toList none → capacity ≤ Count.largest →
        (∀ o, some o ∈ some options :: plan → o.maxLineLength + 1 ≤ capacity) →
        ({ source := { inner, capacity }, options } :
            LineScanner (ReplayBuffer ρ)).answers fuel plan
          = some ((List.range plan.length).map fun k => .ok (split text.toList)[k]?) := by
  have hlen : ([] ++ text.toList).length < fuel := by
    rwa [List.nil_append, String.length_toList]
  refine ⟨?_, ?_⟩
  · have hrest : (TextSource.ofString text).rest = text.toList := rfl
    have hhold : (TextSource.ofString text).rest = [] ++ (TextSource.ofString text).rest := rfl
    have hplan : ∀ o, some o ∈ plan → True := fun _ _ => trivial
    exact textSource_serves.answers_split trivial hplan hhold (hrest ▸ TextSource.delivers _) hlen
  · intro ρ ε _ inner capacity hr hle hplan
    have hhold : ReplayBuffer.Holds capacity { inner, capacity } [] inner := ⟨rfl, rfl, rfl⟩
    apply (replayBuffer_serves hle).answers_split (hplan _ List.mem_cons_self) _ hhold hr hlen
    intro o ho
    exact hplan o (List.mem_cons_of_mem _ ho)

/-- Two lines that come in reads of two, three and one characters. The buffer of two characters is
exchanged for one of a single character after the first line. -/
theorem answers_planned :
    let inner : PlannedReader String :=
      { text := .ofString "ab\r\nc", plan := fun k => .ok (k % 3 + 1) }
    Delivers inner "ab\r\nc".toList none ∧
      ({ source := { inner, capacity := 3 }, options := ⟨2, by decide⟩ } :
          LineScanner (ReplayBuffer (PlannedReader String))).answers 6
          [none, some ⟨1, by decide⟩, none, none]
        = some [.ok (some "ab"), .ok (some "c"), .ok none, .ok none] := by
  intro inner
  have hr : Delivers inner "ab\r\nc".toList none := PlannedReader.delivers fun k => ⟨k % 3, rfl⟩
  refine ⟨hr, ?_⟩
  rw [(answers_eq_split "ab\r\nc" ⟨2, by decide⟩ [none, some ⟨1, by decide⟩, none, none]
    (by decide)).2 _ _ inner 3 hr (by decide) (by simp)]
  rfl

end CharStream
