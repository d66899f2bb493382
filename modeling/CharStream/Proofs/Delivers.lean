import CharStream.Proofs.Reads
import CharStream.Reader.Planned

/-!
# What may be expected of a reader

Three promises that a plain reader may give. With `Delivers` it hands out a text, in pieces of its
own choice, and then ends or fails for good. With `Upcoming` this is its text up to the next
reported end, and what comes after that is left open, as are failures. With `NeverFails` it only
promises that no read fails: it may report an end and go on afterwards, and need not end at all.

The text in memory delivers its rest. A planned reader does if its plan has no failure and no empty
read, and never fails if its plan has no failure.
-/

namespace CharStream

variable {σ ρ ε : Type}

/-! ## Readers of a text -/

/-- A view of a reader's states as the text that is still to come. A read brings a piece of it, and
nothing only when nothing is left; then the reader has ended, or fails with `stop`. -/
structure Delivery [Reader σ ε] (stop : Option ε) (View : σ → List Char → Prop) : Prop where
  more {s : σ} {c : Char} {u : List Char} {n : Nat} : View s (c :: u) → 0 < n →
    ∃ d cs u' s', Reader.read n s = (.ok (d :: cs), s') ∧ c :: u = d :: cs ++ u' ∧ View s' u'
  last {s : σ} {n : Nat} : View s [] → 0 < n →
    match stop with
    | none => ∃ s', Reader.read n s = (.ok [], s') ∧ View s' []
    | some e => (Reader.read n s).1 = .error e

/-- The reader hands out `text`, in pieces of any sizes, and then ends or fails with `stop`. -/
def Delivers [Reader σ ε] (s : σ) (text : List Char) (stop : Option ε) : Prop :=
  ∃ View, Delivery stop View ∧ View s text

theorem Delivers.reads [Reader σ ε] {s s' : σ} {u : List Char} {stop : Option ε}
    {ps : List (List Char)} (hs : Delivers s u stop) (h : Reads s ps s') :
    ∃ u', u = ps.flatten ++ u' ∧ Delivers s' u' stop ∧ (Ended ps → u' = [] ∧ stop = none) := by
  induction h with
  | refl => exact ⟨u, rfl, hs, fun h => by simp [Ended] at h⟩
  | @snoc s₁ s₂ ps n cs _ hn hr ih =>
    obtain ⟨u', rfl, ⟨View, hv, hu'⟩, -⟩ := ih
    cases u' with
    | cons c u' =>
      obtain ⟨d, ds, u'', s₃, hr', hu, hv'⟩ := hv.more hu' hn
      obtain ⟨hcs, rfl⟩ := Prod.mk.inj (hr.symm.trans hr')
      obtain rfl := Except.ok.inj hcs
      exact ⟨u'', by simp [hu], ⟨View, hv, hv'⟩, fun h => absurd h (not_ended_concat_cons _ _ _)⟩
    | nil =>
      have hl := hv.last hu' hn
      cases stop with
      | none =>
        obtain ⟨s₃, hr', hv'⟩ := hl
        obtain ⟨hcs, rfl⟩ := Prod.mk.inj (hr.symm.trans hr')
        obtain rfl := Except.ok.inj hcs
        exact ⟨[], by simp, ⟨View, hv, hv'⟩, fun _ => ⟨rfl, rfl⟩⟩
      | some e =>
        simp only [hr] at hl
        cases hl

theorem Delivers.fails [Reader σ ε] {s s' : σ} {u : List Char} {stop : Option ε} {e : ε}
    (hs : Delivers s u stop) (h : Fails s e s') : u = [] ∧ stop = some e := by
  obtain ⟨View, hv, hu⟩ := hs
  obtain ⟨n, hn, hr⟩ := h
  cases u with
  | cons c u =>
    obtain ⟨d, ds, u', s₁, hr', -, -⟩ := hv.more hu hn
    cases (Prod.mk.inj (hr.symm.trans hr')).1
  | nil =>
    have hl := hv.last hu hn
    cases stop with
    | none =>
      obtain ⟨s₁, hr', -⟩ := hl
      cases (Prod.mk.inj (hr.symm.trans hr')).1
    | some e' =>
      simp only [hr, Except.error.injEq] at hl
      exact ⟨rfl, congrArg some hl.symm⟩

/-! ## Up to the next reported end -/

/-- However the reader is read from `s` on, and in whatever pieces, it brings the text `u` and
nothing else before a read brings nothing. -/
def Upcoming [Reader σ ε] (s : σ) (u : List Char) : Prop :=
  ∀ ps s', Brings s ps s' → ps.flatten <+: u ∧
    ∀ n s'', 0 < n → Reader.read n s' = (.ok [], s'') → ps.flatten = u

theorem Upcoming.brings [Reader σ ε] {s s' : σ} {u : List Char} {ps : List (List Char)}
    (h : Upcoming s u) (hps : Brings s ps s') : ∃ u', u = ps.flatten ++ u' ∧ Upcoming s' u' := by
  obtain ⟨u', rfl⟩ := (h ps s' hps).1
  refine ⟨u', rfl, ?_⟩
  intro qs s₁ hqs
  obtain ⟨hfront, hend⟩ := h _ s₁ (hps.trans hqs)
  rw [List.flatten_append] at hfront hend
  refine ⟨(List.prefix_append_right_inj _).1 hfront, ?_⟩
  intro n s₂ hn hr
  exact List.append_cancel_left (hend n s₂ hn hr)

theorem Upcoming.ended [Reader σ ε] {s s' : σ} {u : List Char} {n : Nat} (h : Upcoming s u)
    (hn : 0 < n) (hr : Reader.read n s = (.ok [], s')) : u = [] :=
  ((h [] s (.refl s)).2 n s' hn hr).symm

theorem Upcoming.readOne [Reader σ ε] {s s' : σ} {u : List Char} {next : Option Char}
    (h : Upcoming s u) (hr : readOne Reader.read s = (.ok next, s')) : next = u.head? := by
  have hread := read_of_readOne hr
  cases next with
  | none =>
    rw [h.ended Nat.one_pos hread]
    rfl
  | some c =>
    obtain ⟨u', rfl, -⟩ := h.brings (.snoc (.refl s) Nat.one_pos hread)
    rfl

theorem Delivers.upcoming [Reader σ ε] {s : σ} {u : List Char} {stop : Option ε}
    (h : Delivers s u stop) : Upcoming s u := by
  intro ps s' hps
  obtain ⟨u', rfl, hs', -⟩ := h.reads hps.reads
  refine ⟨List.prefix_append _ _, ?_⟩
  intro n s'' hn hr
  obtain ⟨u'', hu', -, hend⟩ := hs'.reads (.one hn hr)
  rw [hu', (hend rfl).1]
  simp

/-! ## Readers that do not fail -/

/-- No read fails, now or later. -/
def NeverFails [Reader σ ε] (s : σ) : Prop := ∀ ps s' e s'', Reads s ps s' → ¬ Fails s' e s''

theorem NeverFails.reads [Reader σ ε] {s s' : σ} {ps : List (List Char)} (h : NeverFails s)
    (hps : Reads s ps s') : NeverFails s' :=
  fun qs s₁ e s₂ hqs hf => h (ps ++ qs) s₁ e s₂ (hps.trans hqs) hf

/-! ## The text in memory and planned readers -/

theorem TextSource.delivers (t : TextSource) : Delivers t t.rest none := by
  refine ⟨fun t u => t.rest = u, ⟨?_, ?_⟩, rfl⟩
  · intro t c u n hu hn
    obtain ⟨n, rfl⟩ := Nat.exists_eq_succ_of_ne_zero (Nat.ne_of_gt hn)
    refine ⟨c, u.take n, u.drop n, (t.read (n + 1)).2, ?_, by simp, ?_⟩
    · exact Prod.ext (congrArg Except.ok (by rw [t.read_fst, hu, List.take_succ_cons])) rfl
    · rw [t.rest_read, hu, List.drop_succ_cons]
  · intro t n hu hn
    refine ⟨(t.read n).2, ?_, ?_⟩
    · exact Prod.ext (congrArg Except.ok (by rw [t.read_fst, hu, List.take_nil])) rfl
    · rw [t.rest_read, hu, List.drop_nil]

theorem PlannedReader.read_ok {p : PlannedReader ε} {most : Nat} (n : Nat)
    (h : p.plan (p.reads + 1) = .ok most) :
    ∃ p', Reader.read n p = (.ok (p.text.rest.take (min n most)), p') ∧ p'.plan = p.plan ∧
      p'.text.rest = p.text.rest.drop (min n most) := by
  refine ⟨{ p with reads := p.reads + 1, text := (p.text.read (min n most)).2 }, ?_, rfl, ?_⟩
  · show PlannedReader.read n p = _
    simp [PlannedReader.read, h, p.text.read_fst]
  · exact p.text.rest_read _

/-- A plan of short reads, none of which fails or asks for nothing. -/
theorem PlannedReader.delivers {p : PlannedReader ε} (h : ∀ k, ∃ m, p.plan k = .ok (m + 1)) :
    Delivers p p.text.rest none := by
  refine ⟨fun p u => p.text.rest = u ∧ ∀ k, ∃ m, p.plan k = .ok (m + 1), ⟨?_, ?_⟩, rfl, h⟩
  · rintro p c u n ⟨hu, h⟩ hn
    obtain ⟨n, rfl⟩ := Nat.exists_eq_succ_of_ne_zero (Nat.ne_of_gt hn)
    obtain ⟨m, hm⟩ := h (p.reads + 1)
    obtain ⟨p', hr, hplan, hrest⟩ := PlannedReader.read_ok (n + 1) hm
    rw [Nat.add_min_add_right, hu] at hr hrest
    exact ⟨c, u.take (min n m), u.drop (min n m), p', hr, by simp, hrest, hplan ▸ h⟩
  · rintro p n ⟨hu, h⟩ hn
    obtain ⟨m, hm⟩ := h (p.reads + 1)
    obtain ⟨p', hr, hplan, hrest⟩ := PlannedReader.read_ok n hm
    rw [hu] at hr hrest
    exact ⟨p', by rw [hr, List.take_nil], by rw [hrest, List.drop_nil], hplan ▸ h⟩

theorem PlannedReader.text_of_reads {p p' : PlannedReader ε} {ps : List (List Char)}
    (h : ∀ k, ∃ m, p.plan k = .ok m) (hps : Reads p ps p') :
    p'.plan = p.plan ∧ p.text.rest = ps.flatten ++ p'.text.rest := by
  induction hps with
  | refl => exact ⟨rfl, by simp⟩
  | @snoc p₁ p₂ ps n cs _ hn hr ih =>
    obtain ⟨m, hm⟩ := h (p₁.reads + 1)
    obtain ⟨p₃, hr', hplan, hrest⟩ := PlannedReader.read_ok n (ih.1 ▸ hm)
    obtain ⟨hcs, rfl⟩ := Prod.mk.inj (hr.symm.trans hr')
    refine ⟨hplan.trans ih.1, ?_⟩
    rw [ih.2, hrest, Except.ok.inj hcs]
    simp

theorem PlannedReader.neverFails {p : PlannedReader ε} (h : ∀ k, ∃ m, p.plan k = .ok m) :
    NeverFails p := by
  rintro ps p' e p'' hps ⟨n, hn, hr⟩
  obtain ⟨m, hm⟩ := h (p'.reads + 1)
  obtain ⟨p₃, hr', -, -⟩ := PlannedReader.read_ok n ((PlannedReader.text_of_reads h hps).1 ▸ hm)
  cases (Prod.mk.inj (hr.symm.trans hr')).1

end CharStream
