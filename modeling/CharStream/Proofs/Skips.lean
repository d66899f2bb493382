import CharStream.Proofs.Cursor
import CharStream.Proofs.Replaying

/-!
# Skips are exact

A reader that knows no better way skips by reading, at most 64 characters at a time. However it cuts
what it brings, the skip ends where it should: `skipFrom_ends` says that its reads drop no character
beyond those asked for, and that it falls short only where a read brings nothing. So of a text that
is upcoming it drops the front (`SkipEnds.upcoming`).

**A text in memory** moves its position instead. It does to every state what skipping by reads does
(`TextSource.skipBy_eq`), and so a client cannot tell it from `PlainText`, which is the same text
without its own way of skipping. `TextSource.Within` says where the mark and the position of a text
are, whatever calls are made.

* `skip_exact` — skips by reads, skips of a text, and its position after any calls.
-/

namespace CharStream

variable {σ ε : Type}

/-! ## Skips by reads -/

/-- **A skip that succeeds** drops the front of what is upcoming: as many characters as were asked
for, or all of them. If it drops all that were asked for, the rest is upcoming then. -/
theorem SkipEnds.upcoming [Reader σ ε] {n k : Nat} {s s₁ s' : σ} {u : List Char}
    {ps : List (List Char)} (hu : Upcoming s u) (hps : Brings s ps s₁)
    (h : SkipEnds n ps.flatten.length s₁ (.ok k) s') :
    k = min n u.length ∧ ps.flatten = u.take n ∧ (n ≤ u.length → Upcoming s' (u.drop n)) := by
  obtain ⟨u', rfl, hs₁⟩ := hu.brings hps
  cases h with
  | all hall =>
    subst hall
    rw [List.length_append, List.take_left, List.drop_left]
    exact ⟨by omega, rfl, fun _ => hs₁⟩
  | ended hpos hfits hr =>
    obtain rfl := hs₁.ended hpos hr
    rw [List.append_nil]
    refine ⟨by omega, (List.take_of_length_le (by omega)).symm, ?_⟩
    intro hle
    omega

/-! ## A text in memory -/

namespace TextSource

/-- The mark is not behind the position, and the position is in the text. -/
structure Within (t : TextSource) : Prop where
  marked : t.marked ≤ t.pos
  pos : t.pos ≤ t.text.size

theorem of_reads {t t' : TextSource} {ps : List (List Char)} (h : Reads t ps t') :
    t' = { t with pos := t.pos + ps.flatten.length } := by
  induction h with
  | refl => rfl
  | snoc _ _ hr ih =>
    obtain ⟨hcs, rfl⟩ := Prod.mk.inj hr
    obtain rfl := Except.ok.inj hcs
    rw [ih, List.flatten_append, List.flatten_singleton, List.length_append, ← Nat.add_assoc]

/-- **Skipping a text** does what skipping by reads does. -/
theorem skipBy_eq (n : Nat) (t : TextSource) :
    skipBy (Reader.read (σ := TextSource)) n t = Reader.skip n t := by
  rcases h : skipBy (Reader.read (σ := TextSource)) n t with ⟨x, t'⟩
  cases x with
  | error e => exact e.elim
  | ok k =>
    obtain ⟨ps, t₁, hps, -, hends⟩ := skipBy_ends h
    obtain ⟨hk, -⟩ := hends.upcoming t.delivers.upcoming hps
    rw [length_rest] at hk
    rcases skipBy_cases h with ⟨qs, hx, hqs, -⟩ | ⟨e, -⟩
    · obtain rfl := Except.ok.inj hx
      rw [of_reads hqs, hk]
      rfl
    · exact e.elim

theorem within_ofString (s : String) : (ofString s).Within :=
  ⟨Nat.le_refl 0, Nat.zero_le _⟩

theorem Within.moved {t : TextSource} {k : Nat} (h : t.Within) (hk : k ≤ t.remaining) :
    ({ t with pos := t.pos + k } : TextSource).Within := by
  obtain ⟨hmarked, hpos⟩ := h
  rw [remaining] at hk
  exact ⟨by dsimp only; omega, by dsimp only; omega⟩

theorem Within.read {t : TextSource} (h : t.Within) (n : Nat) : (t.read n).2.Within := by
  apply h.moved
  rw [← length_rest]
  exact (t.read_fst n ▸ List.take_prefix n t.rest).length_le

/-- **Every call keeps them there**, and the text as it is. -/
theorem Within.call {t : TextSource} (h : t.Within) (call : Call) :
    (call.run t).2.Within ∧ (call.run t).2.text = t.text := by
  have hread (n : Nat) (t' : TextSource) (ht' : t'.Within ∧ t'.text = t.text) :
      (Reader.read n t').2.Within ∧ (Reader.read n t').2.text = t.text :=
    ⟨ht'.1.read n, ht'.2⟩
  cases call with
  | read n => exact hread n t ⟨h, rfl⟩
  | readChar =>
    exact readOne_keeps (P := fun t' : TextSource => t'.Within ∧ t'.text = t.text) hread ⟨h, rfl⟩
  | skip n => exact ⟨h.moved (Nat.min_le_right n t.remaining), rfl⟩
  | mark => exact ⟨⟨Nat.le_refl t.pos, h.pos⟩, rfl⟩
  | rewind => exact ⟨⟨Nat.le_refl t.marked, Nat.le_trans h.marked h.pos⟩, rfl⟩

/-- **Any calls** keep them there. -/
theorem Within.after {t : TextSource} (h : t.Within) (calls : List Call) :
    (after calls t).Within ∧ (CharStream.after calls t).text = t.text := by
  induction calls generalizing t with
  | nil => exact ⟨h, rfl⟩
  | cons call calls ih =>
    obtain ⟨hcall, htext⟩ := h.call call
    obtain ⟨hafter, htext'⟩ := ih hcall
    exact ⟨hafter, htext'.trans htext⟩

end TextSource

/-! ## A text that skips by reading -/

/-- A text in memory without a way of its own to skip. -/
structure PlainText where
  source : TextSource

namespace PlainText

/-- Runs an operation of the text. -/
def onText {α : Type} (f : TextSource → α × TextSource) (p : PlainText) : α × PlainText :=
  (f p.source).map id PlainText.mk

instance : Rewindable PlainText Empty where
  read n := onText (Reader.read n)
  length_read_le {n p cs p'} h := by
    have hcs : (Reader.read n p.source).1 = .ok cs := congrArg Prod.fst h
    exact Reader.length_read_le (Prod.ext hcs rfl)
  lookahead p := Rewindable.lookahead p.source
  mark n := onText (Rewindable.mark n)
  rewind := onText Rewindable.rewind

end PlainText

/-- A client cannot tell a text that skips by reading from one that moves its position. -/
theorem plainText_mirrors : Mirrors PlainText.source where
  read n p := rfl
  readChar p := readOne_map (f := PlainText.source) (fun n p => rfl) p
  skip n p := by
    rw [← TextSource.skipBy_eq]
    exact skipFrom_map (f := PlainText.source) (fun n p => rfl) n 0 p
  lookahead p := rfl
  mark n p := rfl
  rewind p := Prod.ext rfl rfl

/-! ## Exact skips -/

/-- **Skips are exact.** A skip by reads that succeeds has dropped the first `n` characters before
the next read that brings nothing, or all if there are fewer, however they are cut. A text in memory
skips as it would by reading, and so answers any calls as if it did, with its position and its mark
in bounds. -/
theorem skip_exact [Reader σ ε] :
    (∀ (n : Nat) (s s' : σ) (x : Except ε Nat), skipBy Reader.read n s = (x, s') →
      ∃ ps s₁, Brings s ps s₁ ∧ ps.flatten.length ≤ n ∧ SkipEnds n ps.flatten.length s₁ x s' ∧
        ∀ u k, Upcoming s u → x = .ok k →
          k = min n u.length ∧ ps.flatten = u.take n ∧
            (n ≤ u.length → Upcoming s' (u.drop n))) ∧
    ((∀ (n : Nat) (t : TextSource), skipBy Reader.read n t = Reader.skip n t) ∧
      (∀ (calls : List Call) (p : PlainText), answers calls p = answers calls p.source ∧
        (after calls p).source = after calls p.source) ∧
      ∀ (text : String) (calls : List Call),
        let t := after calls (TextSource.ofString text)
        t.text.toList = text.toList ∧ t.marked ≤ t.pos ∧ t.pos ≤ t.text.size ∧
          t.pos + t.remaining = t.text.size) := by
  refine ⟨?_, fun n t => t.skipBy_eq n, ?_, ?_⟩
  · intro n s s' x h
    obtain ⟨ps, s₁, hps, hle, hends⟩ := skipBy_ends h
    refine ⟨ps, s₁, hps, hle, hends, ?_⟩
    rintro u k hu rfl
    exact hends.upcoming hu hps
  · intro calls p
    exact ⟨(plainText_mirrors.answers calls p).symm, (plainText_mirrors.after calls p).symm⟩
  · intro text calls t
    obtain ⟨⟨hmarked, hpos⟩, htext⟩ := (TextSource.within_ofString text).after calls
    refine ⟨congrArg Array.toList htext, hmarked, hpos, ?_⟩
    exact Nat.add_sub_cancel' hpos

/-- A skip of more than one read, from a text that comes in pieces of other lengths; and one past
the end of a text that was read, marked and rewound. -/
theorem skip_exact_pieces :
    let pieces : PlannedReader Unit :=
      { text := .ofString (String.ofList (List.replicate 70 'a')), plan := fun k => .ok (k + 30) }
    let calls : List Call := [.skip 1, .mark 1, .read 2, .rewind, .skip 5]
    (∃ s', skipBy Reader.read 66 pieces = (.ok 66, s') ∧ Upcoming s' (List.replicate 4 'a')) ∧
      answers calls (PlainText.mk (.ofString "abc"))
        = [.skipped 1, .done, .chars ['b', 'c'], .done, .skipped 2] := by
  intro pieces calls
  obtain ⟨hskip, -, hplain, -⟩ := skip_exact (σ := PlannedReader Unit)
  have hupcoming : Upcoming pieces (List.replicate 70 'a') :=
    (PlannedReader.delivers (p := pieces) fun k => ⟨k + 29, rfl⟩).upcoming
  rcases h : skipBy Reader.read 66 pieces with ⟨x, s'⟩
  have hx : x = .ok 66 := by
    rw [show x = (skipBy Reader.read 66 pieces).1 from congrArg Prod.fst h.symm]
    decide +kernel
  obtain ⟨ps, s₁, -, -, -, hfront⟩ := hskip 66 pieces s' x h
  obtain ⟨-, -, hrest⟩ := hfront _ 66 hupcoming hx
  refine ⟨⟨s', by rw [hx], hrest (by decide)⟩, ?_⟩
  rw [(hplain calls _).1]
  decide +kernel

end CharStream
