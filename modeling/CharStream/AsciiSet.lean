import CharStream.Text.Quoted

/-!
# Sets of ASCII characters

One bit for each of the 128 ASCII code points. Membership is asked of characters and of UTF-16
units alike; whatever is not ASCII is never a member, and cannot be added.

Main results: `contains_insert`, what adding a character changes, and `mem_toList`, that the list
of a set holds its members.
-/

namespace CharStream

/-- A set of ASCII characters; bit `n` says whether the code point `n` is in it. -/
structure AsciiSet where
  bits : BitVec 128
deriving DecidableEq

namespace AsciiSet

/-- The set without members. -/
def empty : AsciiSet := ⟨0⟩

/-- Whether a code point is in the set. -/
def has (s : AsciiSet) (n : Nat) : Bool := s.bits.getLsbD n

/-- The set with one more byte; a byte that is not ASCII changes nothing. -/
def withByte (s : AsciiSet) (b : UInt8) : AsciiSet :=
  if b < 0x80 then ⟨s.bits ||| (1#128 <<< b.toNat)⟩ else s

/-- The set with one more character, or `none` if the character is not ASCII. -/
def insert? (s : AsciiSet) (c : Char) : Option AsciiSet :=
  if c.toNat < 0x80 then some (s.withByte c.toNat.toUInt8) else none

/-- Whether a UTF-16 unit is in the set. -/
def containsUnit (s : AsciiSet) (u : UInt16) : Bool := u < 0x80 && s.has u.toNat

/-- Whether a character is in the set. -/
def contains (s : AsciiSet) (c : Char) : Bool := c.toNat < 0x80 && s.has c.toNat

/-- The members in the order of their code points. -/
def toList (s : AsciiSet) : List Char := ((List.range 128).filter s.has).map Char.ofNat

/-- The number of members, which is the number of bits that are set. -/
def size (s : AsciiSet) : Nat := s.bits.cpop.toNat

/-- Whether there is no member. -/
def isEmpty (s : AsciiSet) : Bool := s.bits = 0

/-- The set of the ASCII characters in a list. -/
def ofList (cs : List Char) : AsciiSet := cs.foldl (fun s c => (s.insert? c).getD s) empty

/-- What may stand in a URL without further thought: letters, digits, and the marks
dollar, hyphen, underscore, full stop, exclamation mark, asterisk, apostrophe, parentheses and
comma. The plus sign is not among them, since forms read it as a space. -/
def unreserved : AsciiSet :=
  ofList ("abcdefghijklmnopqrstuvwxyz" ++ "ABCDEFGHIJKLMNOPQRSTUVWXYZ" ++ "0123456789"
    ++ "$-_.!*'(),").toList

/-- The members, quoted and between braces. -/
def describe (s : AsciiSet) : String :=
  "\x7b" ++ String.intercalate ", " (s.toList.map Text.quotedChar) ++ "\x7d"

/-! ## Members -/

@[simp] theorem has_empty (n : Nat) : empty.has n = false := by simp [has, empty]

theorem has_of_le {n : Nat} (h : 128 ≤ n) (s : AsciiSet) : s.has n = false := by
  simp [has, BitVec.getLsbD_of_ge _ _ h]

theorem lt_of_has {s : AsciiSet} {n : Nat} (h : s.has n = true) : n < 128 := by
  apply Decidable.byContradiction
  intro hn
  rw [has_of_le (Nat.le_of_not_lt hn)] at h
  exact Bool.false_ne_true h

theorem contains_eq_has (s : AsciiSet) (c : Char) : s.contains c = s.has c.toNat := by
  rw [contains, Bool.and_eq_right_iff_imp]
  intro h
  exact decide_eq_true (lt_of_has h)

theorem containsUnit_eq_has (s : AsciiSet) (u : UInt16) : s.containsUnit u = s.has u.toNat := by
  rw [containsUnit, Bool.and_eq_right_iff_imp]
  intro h
  rw [decide_eq_true_eq, UInt16.lt_iff_toNat_lt]
  exact lt_of_has h

theorem lt_of_contains {s : AsciiSet} {c : Char} (h : s.contains c = true) : c.toNat < 0x80 :=
  of_decide_eq_true (Bool.and_eq_true_iff.1 h).1

theorem has_withByte (s : AsciiSet) {b : UInt8} (hb : b < 0x80) (n : Nat) :
    (s.withByte b).has n = (s.has n || decide (n = b.toNat)) := by
  have hb' : b.toNat < 128 := by simpa [UInt8.lt_iff_toNat_lt] using hb
  by_cases hn : n < 128
  · simp only [withByte, hb, if_true, has, BitVec.getLsbD_or, BitVec.getLsbD_shiftLeft, hn,
      decide_true, Bool.true_and, BitVec.getLsbD_one]
    congr 1
    rw [Bool.eq_iff_iff]
    simp
    omega
  · have h : ∀ t : AsciiSet, t.has n = false := has_of_le (by omega)
    simp [h]; omega

/-- Adding a character adds it and nothing else. -/
theorem contains_insert {s t : AsciiSet} {c : Char} (h : s.insert? c = some t) (d : Char) :
    t.contains d = (s.contains d || decide (d = c)) := by
  unfold insert? at h
  split at h
  · next hc =>
    obtain rfl := Option.some.inj h
    have hn : c.toNat.toUInt8.toNat = c.toNat := by simp; omega
    have hb : c.toNat.toUInt8 < 0x80 := by rw [UInt8.lt_iff_toNat_lt, hn]; exact hc
    have hd : d = c ↔ d.toNat = c.toNat :=
      ⟨congrArg _, fun h => by rw [← Char.ofNat_toNat d, h, Char.ofNat_toNat]⟩
    rw [contains_eq_has, contains_eq_has, has_withByte s hb, hn, decide_eq_decide.2 hd]
  · simp at h

theorem mem_toList {s : AsciiSet} {c : Char} : c ∈ s.toList ↔ s.contains c = true := by
  simp only [toList, List.mem_map, List.mem_filter, List.mem_range, contains, Bool.and_eq_true,
    decide_eq_true_eq]
  constructor
  · rintro ⟨n, ⟨hn, hs⟩, rfl⟩
    have hv : n.isValidChar := .inl (by omega)
    have : (Char.ofNat n).toNat = n := by
      rw [Char.ofNat, dif_pos hv]
      rfl
    exact ⟨by omega, by rwa [this]⟩
  · rintro ⟨hc, hs⟩
    exact ⟨c.toNat, ⟨hc, hs⟩, Char.ofNat_toNat c⟩

end AsciiSet

end CharStream
