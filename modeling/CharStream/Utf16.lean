/-!
# UTF-16 code units

A character below U+10000 is one unit; any other is a high surrogate followed by a low one, which
carry ten bits each. `units` writes text as units. `items` reads any sequence of units: surrogates
that form no pair stand alone.

Main results: `items_units`, that reading what was written gives back the characters.
-/

namespace CharStream.Utf16

/-- The first unit of a pair. -/
def isHigh (u : UInt16) : Bool := 0xD800 ≤ u && u ≤ 0xDBFF

/-- The second unit of a pair. -/
def isLow (u : UInt16) : Bool := 0xDC00 ≤ u && u ≤ 0xDFFF

/-- Half of a pair. -/
def isSurrogate (u : UInt16) : Bool := 0xD800 ≤ u && u ≤ 0xDFFF

/-- What stands for a surrogate without its partner. -/
def unpaired : Char := '?'

/-- The character of a code point, and `unpaired` where there is none. -/
def ofCode (n : Nat) : Char := if n.isValidChar then Char.ofNat n else unpaired

/-- The code point that a pair stands for. -/
def pairCode (high low : UInt16) : Nat :=
  0x10000 + (high.toNat - 0xD800) * 0x400 + (low.toNat - 0xDC00)

/-- The character that a pair stands for. -/
def combine (high low : UInt16) : Char := ofCode (pairCode high low)

/-- The units of a character. -/
def unitsOf (c : Char) : List UInt16 :=
  if c.toNat < 0x10000 then [c.toNat.toUInt16]
  else
    let rest := c.toNat - 0x10000
    [(0xD800 + rest / 0x400).toUInt16, (0xDC00 + rest % 0x400).toUInt16]

/-- The units of a text. -/
def units (cs : List Char) : List UInt16 := cs.flatMap unitsOf

/-- What a sequence of units is made of. -/
inductive Item where
  /-- A character, from one unit or from a pair. -/
  | char (c : Char)
  /-- A surrogate without its partner. -/
  | lone (u : UInt16)
deriving DecidableEq

/-- A unit that is not the first of a pair, by itself. -/
def single (u : UInt16) : Item :=
  if isSurrogate u then .lone u else .char (Char.ofNat u.toNat)

/-- Groups units: a high surrogate directly followed by a low one is one character. -/
def items : List UInt16 → List Item
  | [] => []
  | [u] => [single u]
  | u :: v :: us =>
    if isHigh u && isLow v then .char (combine u v) :: items us
    else single u :: items (v :: us)

/-- The character of an item; `c` for a lone surrogate. -/
def Item.charOr (c : Char) : Item → Char
  | .char d => d
  | .lone _ => c

/-! ## Reading what was written -/

theorem isHigh_eq (u : UInt16) : isHigh u = decide (0xD800 ≤ u.toNat ∧ u.toNat ≤ 0xDBFF) := by
  simp [isHigh, UInt16.le_iff_toNat_le, Bool.decide_and]

theorem isLow_eq (u : UInt16) : isLow u = decide (0xDC00 ≤ u.toNat ∧ u.toNat ≤ 0xDFFF) := by
  simp [isLow, UInt16.le_iff_toNat_le, Bool.decide_and]

theorem isSurrogate_eq (u : UInt16) :
    isSurrogate u = decide (0xD800 ≤ u.toNat ∧ u.toNat ≤ 0xDFFF) := by
  simp [isSurrogate, UInt16.le_iff_toNat_le, Bool.decide_and]

theorem toNat_bounds (c : Char) :
    c.toNat < 0xD800 ∨ (0xDFFF < c.toNat ∧ c.toNat < 0x110000) := c.valid

theorem toNat_ofNat_of_valid {n : Nat} (h : n.isValidChar) : (Char.ofNat n).toNat = n := by
  rw [Char.ofNat, dif_pos h]
  rfl

theorem ofCode_of_valid {n : Nat} (h : n.isValidChar) : ofCode n = Char.ofNat n := if_pos h

theorem single_of_lt {c : Char} (h : c.toNat < 0x10000) : single c.toNat.toUInt16 = .char c := by
  have hn : c.toNat.toUInt16.toNat = c.toNat := by simp; omega
  have hs : isSurrogate c.toNat.toUInt16 = false := by
    rw [isSurrogate_eq, hn]
    have := toNat_bounds c
    simp; omega
  simp [single, hs, hn, Char.ofNat_toNat]

theorem combine_unitsOf {c : Char} (h : 0x10000 ≤ c.toNat) :
    combine (0xD800 + (c.toNat - 0x10000) / 0x400).toUInt16
      (0xDC00 + (c.toNat - 0x10000) % 0x400).toUInt16 = c := by
  have := toNat_bounds c
  have h₁ : (0xD800 + (c.toNat - 0x10000) / 0x400).toUInt16.toNat
      = 0xD800 + (c.toNat - 0x10000) / 0x400 := by simp; omega
  have h₂ : (0xDC00 + (c.toNat - 0x10000) % 0x400).toUInt16.toNat
      = 0xDC00 + (c.toNat - 0x10000) % 0x400 := by simp; omega
  have hcode : pairCode (0xD800 + (c.toNat - 0x10000) / 0x400).toUInt16
      (0xDC00 + (c.toNat - 0x10000) % 0x400).toUInt16 = c.toNat := by
    unfold pairCode
    omega
  have hvalid : c.toNat.isValidChar := c.valid
  rw [combine, hcode, ofCode_of_valid hvalid, Char.ofNat_toNat]

theorem isValidChar_unit (u : UInt16) : u.toNat.isValidChar ↔ isSurrogate u = false := by
  rw [isSurrogate_eq, decide_eq_false_iff_not, Nat.isValidChar]
  have hu := u.toNat_lt
  omega

theorem toNat_ofNat {u : UInt16} (h : isSurrogate u = false) :
    (Char.ofNat u.toNat).toNat = u.toNat :=
  toNat_ofNat_of_valid ((isValidChar_unit u).2 h)

theorem le_pairCode (u v : UInt16) : 0x10000 ≤ pairCode u v := by
  unfold pairCode
  omega

theorem isValidChar_pairCode {u v : UInt16} (hu : isHigh u = true) (hv : isLow v = true) :
    (pairCode u v).isValidChar := by
  rw [isHigh_eq, decide_eq_true_eq] at hu
  rw [isLow_eq, decide_eq_true_eq] at hv
  unfold pairCode
  exact .inr ⟨by omega, by omega⟩

/-- **Nothing stands in for a pair**: it is always the character of its code point. -/
theorem combine_eq_ofNat {u v : UInt16} (hu : isHigh u = true) (hv : isLow v = true) :
    combine u v = Char.ofNat (pairCode u v) :=
  ofCode_of_valid (isValidChar_pairCode hu hv)

theorem toNat_combine {u v : UInt16} (hu : isHigh u = true) (hv : isLow v = true) :
    (combine u v).toNat = pairCode u v := by
  rw [combine_eq_ofNat hu hv, toNat_ofNat_of_valid (isValidChar_pairCode hu hv)]

theorem items_cons_of_not_isHigh {u : UInt16} (h : isHigh u = false) (us : List UInt16) :
    items (u :: us) = single u :: items us := by
  cases us <;> simp [items, h]

/-- The units of a character are one item, whatever follows. -/
theorem items_unitsOf_append (c : Char) (us : List UInt16) :
    items (unitsOf c ++ us) = .char c :: items us := by
  have hc := toNat_bounds c
  by_cases h : c.toNat < 0x10000
  · have hu : isHigh c.toNat.toUInt16 = false := by
      rw [isHigh_eq]; simp; omega
    simp [unitsOf, h, items_cons_of_not_isHigh hu, single_of_lt h]
  · have hh : isHigh (0xD800 + (c.toNat - 0x10000) / 0x400).toUInt16 = true := by
      rw [isHigh_eq]; simp; omega
    have hl : isLow (0xDC00 + (c.toNat - 0x10000) % 0x400).toUInt16 = true := by
      rw [isLow_eq]; simp; omega
    simp only [unitsOf, h, if_false, List.cons_append, List.nil_append, items, hh, hl,
      Bool.and_self, if_true, combine_unitsOf (Nat.le_of_not_lt h)]

/-- Reading the units of a text gives its characters. -/
theorem items_units (cs : List Char) : items (units cs) = cs.map .char := by
  induction cs with
  | nil => rfl
  | cons c cs ih =>
    rw [units, List.flatMap_cons, items_unitsOf_append, ← units, ih, List.map_cons]

end CharStream.Utf16
