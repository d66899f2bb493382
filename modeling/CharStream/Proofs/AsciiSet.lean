import CharStream.AsciiSet
import CharStream.Utf16

/-!
# A set of ASCII characters is what was added to it

A set is filled by additions of characters and of bytes, in any order, and asked in several ways:
for a character, for a UTF-16 unit, for the list of its members, for their number. `contains_add`
says what one addition changes and `contains_addAll` what any number of them do. Two sets with the
same members are the same 128 bits (`ext_contains`), so neither the order of the additions nor their
repetition leaves a trace.

* `containsUnit_eq_mask` — asking for a unit is testing one bit by a mask.
* `size_eq_length` — the number of bits that are set is the number of members.
* `asciiSet_members` — all views of a set after any additions.
-/

namespace CharStream

/-- A call that adds to a set. -/
inductive Addition where
  | char (c : Char)
  | byte (b : UInt8)
deriving DecidableEq

namespace Addition

/-- The character that the call adds, if it is ASCII. -/
def target : Addition → Char
  | .char c => c
  | .byte b => Char.ofNat b.toNat

/-- Makes the call; a character that is refused leaves the set as it is. -/
def run (s : AsciiSet) : Addition → AsciiSet
  | .char c => (s.insert? c).getD s
  | .byte b => s.withByte b

end Addition

namespace AsciiSet

variable {s t : AsciiSet} {c : Char}

/-- The additions in turn. -/
def addAll (adds : List Addition) (s : AsciiSet) : AsciiSet := adds.foldl Addition.run s

/-! ## Additions -/

theorem toNat_ofNat_of_lt {n : Nat} (h : n < 0xD800) : (Char.ofNat n).toNat = n :=
  Utf16.toNat_ofNat_of_valid (.inl h)

theorem eq_of_toNat {c d : Char} (h : c.toNat = d.toNat) : c = d := by
  rw [← Char.ofNat_toNat c, h, Char.ofNat_toNat]

theorem insert?_eq_none : s.insert? c = none ↔ 0x80 ≤ c.toNat := by
  unfold insert?
  split
  · next h => simp [h]
  · next h => simp [Nat.le_of_not_lt h]

/-- **One addition** adds its character, if that is ASCII, and nothing else. -/
theorem contains_add (a : Addition) :
    (a.run s).contains c = true ↔ s.contains c = true ∨ c.toNat < 0x80 ∧ a.target = c := by
  cases a with
  | char d =>
    cases h : s.insert? d with
    | none =>
      have hd := insert?_eq_none.1 h
      simp only [Addition.run, Addition.target, h, Option.getD_none]
      constructor
      · exact .inl
      · rintro (hc | ⟨hc, rfl⟩)
        · exact hc
        · omega
    | some t =>
      have hd : d.toNat < 0x80 := by
        apply Nat.lt_of_not_le
        intro hle
        rw [insert?_eq_none.2 hle] at h
        cases h
      simp only [Addition.run, Addition.target, h, Option.getD_some, contains_insert h,
        Bool.or_eq_true, decide_eq_true_eq]
      constructor
      · rintro (hc | rfl)
        · exact .inl hc
        · exact .inr ⟨hd, rfl⟩
      · rintro (hc | ⟨-, rfl⟩)
        · exact .inl hc
        · exact .inr rfl
  | byte b =>
    have hb : (Char.ofNat b.toNat).toNat = b.toNat :=
      toNat_ofNat_of_lt (Nat.lt_trans b.toNat_lt (by decide))
    simp only [Addition.run, Addition.target]
    by_cases hlt : b < 0x80
    · rw [contains_eq_has, contains_eq_has, has_withByte s hlt, Bool.or_eq_true, decide_eq_true_eq]
      have hlt : b.toNat < 0x80 := UInt8.lt_iff_toNat_lt.1 hlt
      constructor
      · rintro (hc | hc)
        · exact .inl hc
        · exact .inr ⟨hc ▸ hlt, eq_of_toNat (hb.trans hc.symm)⟩
      · rintro (hc | ⟨-, rfl⟩)
        · exact .inl hc
        · exact .inr hb
    · have hge : 0x80 ≤ b.toNat := UInt8.le_iff_toNat_le.1 (UInt8.not_lt.1 hlt)
      rw [withByte, if_neg hlt]
      constructor
      · exact .inl
      · rintro (hc | ⟨hc, rfl⟩)
        · exact hc
        · omega

/-- **Any additions** add their ASCII characters, and take nothing away. -/
theorem contains_addAll (adds : List Addition) :
    (s.addAll adds).contains c = true ↔
      s.contains c = true ∨ c.toNat < 0x80 ∧ ∃ a ∈ adds, a.target = c := by
  induction adds generalizing s with
  | nil => simp [addAll]
  | cons a adds ih =>
    have hstep : s.addAll (a :: adds) = (a.run s).addAll adds := rfl
    rw [hstep, ih, contains_add, or_assoc, ← and_or_left]
    simp

/-- **Sets with the same members are equal.** -/
theorem ext_contains (h : ∀ c, s.contains c = true ↔ t.contains c = true) : s = t := by
  have hbits : s.bits = t.bits := by
    apply BitVec.eq_of_getLsbD_eq
    intro n hn
    have hc := Bool.eq_iff_iff.2 (h (Char.ofNat n))
    rwa [contains_eq_has, contains_eq_has, toNat_ofNat_of_lt (by omega)] at hc
  cases s
  cases t
  exact congrArg AsciiSet.mk hbits

/-! ## Views -/

theorem containsUnit_iff {u : UInt16} :
    s.containsUnit u = true ↔ ∃ c : Char, c.toNat = u.toNat ∧ s.contains c = true := by
  rw [containsUnit_eq_has]
  constructor
  · intro h
    have hu : (Char.ofNat u.toNat).toNat = u.toNat :=
      toNat_ofNat_of_lt (Nat.lt_trans (lt_of_has h) (by decide))
    exact ⟨Char.ofNat u.toNat, hu, by rwa [contains_eq_has, hu]⟩
  · rintro ⟨c, hcu, hc⟩
    rwa [contains_eq_has, hcu] at hc

/-- Asking for a unit tests one bit by a mask, which is never shifted out. -/
theorem containsUnit_eq_mask (u : UInt16) :
    s.containsUnit u = (decide (u < 0x80) && s.bits &&& (1#128 <<< u.toNat) != 0#128) := by
  by_cases hu : u < 0x80
  · have hlt : u.toNat < 128 := UInt16.lt_iff_toNat_lt.1 hu
    rw [containsUnit, has, ← BitVec.twoPow_eq, BitVec.and_twoPow]
    cases s.bits.getLsbD u.toNat with
    | false => simp
    | true =>
      -- The mask is not zero, for its bit is in range.
      have hmask : BitVec.twoPow 128 u.toNat ≠ 0#128 := by
        intro hzero
        have hbit := congrArg (BitVec.getLsbD · u.toNat) hzero
        simp [hlt] at hbit
      simp [hu, hmask]
  · simp [containsUnit, hu]

/-- Asking for a character asks for its unit, if it is ASCII; no other has a unit that is in the
set, and a unit that is cut off from a larger code is never asked for. -/
theorem contains_eq_containsUnit (c : Char) :
    s.contains c = (decide (c.toNat < 0x80) && s.containsUnit c.toNat.toUInt16) := by
  by_cases hc : c.toNat < 0x80
  · have hn : c.toNat.toUInt16.toNat = c.toNat := by
      simp
      omega
    rw [containsUnit_eq_has, hn, contains]
  · simp [contains, hc]

theorem toList_sorted (s : AsciiSet) : s.toList.Pairwise (· < ·) := by
  have hrange : ((List.range 128).filter s.has).Pairwise (· < ·) := List.pairwise_lt_range.filter _
  rw [toList, List.pairwise_map]
  refine hrange.imp_of_mem ?_
  intro m n hm hn hlt
  have hm := List.mem_range.1 (List.mem_filter.1 hm).1
  have hn := List.mem_range.1 (List.mem_filter.1 hn).1
  show (Char.ofNat m).toNat < (Char.ofNat n).toNat
  rwa [toNat_ofNat_of_lt (by omega), toNat_ofNat_of_lt (by omega)]

/-- The bits that are set below the place `n`. -/
theorem cpopNatRec_eq_countP (x : BitVec 128) (n : Nat) :
    x.cpopNatRec n 0 = (List.range n).countP x.getLsbD := by
  induction n with
  | zero => rfl
  | succ n ih =>
    rw [BitVec.cpopNatRec_succ, BitVec.cpopNatRec_eq, ih, List.range_succ, List.countP_append,
      List.countP_singleton]
    cases x.getLsbD n with
    | false => simp
    | true => simp [Nat.add_comm]

/-- **The number of bits** is the number of members. -/
theorem size_eq_length (s : AsciiSet) : s.size = s.toList.length := by
  calc s.size = (List.range 128).countP s.bits.getLsbD := by
        rw [size, BitVec.toNat_cpop, cpopNatRec_eq_countP]
    _ = s.toList.length := by
        rw [toList, List.length_map, List.countP_eq_length_filter]
        rfl

theorem isEmpty_iff_toList : s.isEmpty = true ↔ s.toList = [] := by
  rw [isEmpty, decide_eq_true_eq, List.eq_nil_iff_forall_not_mem]
  constructor
  · intro h c hc
    rw [mem_toList, contains_eq_has, has, h] at hc
    exact Bool.false_ne_true (BitVec.getLsbD_zero.symm.trans hc)
  · intro h
    have hempty : s = empty := by
      apply ext_contains
      intro c
      have hc : ¬ s.contains c = true := fun hc => h c (mem_toList.2 hc)
      simp [hc, contains_eq_has empty c]
    rw [hempty]
    rfl

/-! ## Where additions start -/

theorem contains_empty (c : Char) : empty.contains c = false := by
  rw [contains_eq_has, has_empty]

theorem lt_of_isAlphanum {c : Char} (h : c.isAlphanum = true) : c.toNat < 128 := by
  have hle {d : Char} (hc : c.val ≤ d.val) (hd : d.toNat < 128) : c.toNat < 128 :=
    Nat.lt_of_le_of_lt (UInt32.le_iff_toNat_le.1 hc) hd
  have hletter : (c.isUpper = true ∨ c.isLower = true) ∨ c.isDigit = true :=
    (Bool.or_eq_true_iff.1 h).imp_left Bool.or_eq_true_iff.1
  rcases hletter with (hupper | hlower) | hdigit
  · exact hle (d := 'Z') (of_decide_eq_true hupper).2 (by decide)
  · exact hle (d := 'z') (of_decide_eq_true (Bool.and_eq_true_iff.1 hlower).2) (by decide)
  · exact hle (d := '9') (of_decide_eq_true (Bool.and_eq_true_iff.1 hdigit).2) (by decide)

/-- The unreserved characters are letters, digits, and ten marks. -/
theorem contains_unreserved (c : Char) :
    unreserved.contains c = true ↔ c.isAlphanum = true ∨ c ∈ "$-_.!*'(),".toList := by
  have hascii : ∀ n < 128, unreserved.has n = ((Char.ofNat n).isAlphanum
      || "$-_.!*'(),".toList.contains (Char.ofNat n)) := by decide +kernel
  by_cases hc : c.toNat < 128
  · have h := hascii c.toNat hc
    rw [Char.ofNat_toNat] at h
    rw [contains_eq_has, h, Bool.or_eq_true, List.contains_iff_mem]
  · have hletter : c.isAlphanum = false := Bool.eq_false_iff.2 fun h => hc (lt_of_isAlphanum h)
    have hmark : c ∉ "$-_.!*'(),".toList := by
      intro hmem
      have hall : ∀ d ∈ "$-_.!*'(),".toList, d.toNat < 128 := by simp
      exact hc (hall c hmem)
    have hnone : unreserved.contains c = false := by
      rw [contains_eq_has, has_of_le (Nat.le_of_not_lt hc)]
    simp only [hnone, hletter, hmark, Bool.false_eq_true, or_self]

end AsciiSet

open AsciiSet in
/-- **A set of ASCII characters is the finite set of what was added to it**, in any order: by its
members and their units, by its list, by its count, and by equality. A character that is not ASCII
is refused. -/
theorem asciiSet_members (start : AsciiSet) (adds : List Addition) :
    let s := start.addAll adds
    ((∀ c, s.contains c = true ↔
          start.contains c = true ∨ c.toNat < 0x80 ∧ ∃ a ∈ adds, a.target = c) ∧
        (∀ more c, s.contains c = true → (s.addAll more).contains c = true) ∧
        (∀ c, empty.contains c = false) ∧
        ∀ c, unreserved.contains c = true ↔ c.isAlphanum = true ∨ c ∈ "$-_.!*'(),".toList) ∧
      ((∀ c, s.contains c = (decide (c.toNat < 0x80) && s.containsUnit c.toNat.toUInt16)) ∧
        (∀ u, s.containsUnit u = true ↔ ∃ c : Char, c.toNat = u.toNat ∧ s.contains c = true) ∧
        (∀ u, 0x80 ≤ u → s.containsUnit u = false) ∧
        ∀ u, s.containsUnit u = (decide (u < 0x80) && s.bits &&& (1#128 <<< u.toNat) != 0#128)) ∧
      ((∀ c, c ∈ s.toList ↔ s.contains c = true) ∧ s.toList.Pairwise (· < ·) ∧
        s.size = s.toList.length ∧ (s.isEmpty = true ↔ ∀ c, s.contains c = false)) ∧
      (∀ adds' : List Addition, (∀ c : Char, c.toNat < 0x80 →
          ((∃ a ∈ adds', a.target = c) ↔ ∃ a ∈ adds, a.target = c)) → start.addAll adds' = s) ∧
      ∀ c, (s.insert? c = none ↔ 0x80 ≤ c.toNat) ∧
        (0x80 ≤ c.toNat → (Addition.char c).run s = s) := by
  intro s
  have hs (c : Char) : s.contains c = true ↔
      start.contains c = true ∨ c.toNat < 0x80 ∧ ∃ a ∈ adds, a.target = c := contains_addAll adds
  refine ⟨⟨hs, ?_, contains_empty, contains_unreserved⟩,
    ⟨contains_eq_containsUnit, fun u => containsUnit_iff, ?_, containsUnit_eq_mask⟩,
    ⟨fun c => mem_toList, s.toList_sorted, s.size_eq_length, ?_⟩, ?_, ?_⟩
  · intro more c hc
    exact (contains_addAll more).2 (.inl hc)
  · intro u hu
    rw [containsUnit_eq_has]
    exact has_of_le (UInt16.le_iff_toNat_le.1 hu) s
  · rw [isEmpty_iff_toList, List.eq_nil_iff_forall_not_mem]
    simp only [mem_toList, Bool.not_eq_true]
  · intro adds' hsame
    apply ext_contains
    intro c
    rw [contains_addAll, hs]
    by_cases hc : c.toNat < 0x80
    · rw [hsame c hc]
    · simp only [hc, false_and]
  · intro c
    refine ⟨insert?_eq_none, ?_⟩
    intro hc
    rw [Addition.run, insert?_eq_none.2 hc, Option.getD_none]

/-- The last ASCII character, twice, and two that are refused. -/
example : (AsciiSet.empty.addAll [.char '\x7f', .byte 0xE9, .char 'é', .char '\x7f']).toList
    = ['\x7f'] := by decide +kernel

end CharStream
