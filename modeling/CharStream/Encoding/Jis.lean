import CharStream.Encoding.Index

/-!
# The Japanese character set

Shift_JIS, EUC-JP and ISO-2022-JP write the characters of one set, JIS X 0208, each in its own
way. The set has rows of 94; a pointer counts through them. Beside it stands the row of halfwidth
katakana, U+FF61 to U+FF9F, which the first two write as single units and the third replaces by
the fullwidth forms.
-/

namespace CharStream.Encoding.Jis

/-- A selection of the index of JIS X 0208. -/
def index : Index :=
  [(0, '\u3000'), (1, '、'), (10, '゛'), (60, '－'), (283, 'あ'), (313, 'だ'), (314, 'ち'),
   (315, 'ぢ'), (377, 'ア'), (502, 'α'), (571, 'Ж'), (1504, '院'), (1697, '界'), (2820, '拭'),
   (2821, '植'), (2917, '世'), (3133, '太'), (3166, '逮'), (3265, '中'), (3760, '鼻'), (3775, '桧'),
   (3776, '姫'), (3877, '文'), (3913, '鞭'), (5639, '檣'), (5891, '烙'), (6081, '痰')]

/-- The first halfwidth character. -/
def halfwidthStart : Nat := 0xFF61

/-- The number of halfwidth characters. -/
def halfwidthCount : Nat := 63

/-- The fullwidth forms of the halfwidth characters, in order. -/
def fullwidthForms : List Char :=
  "。「」、・ヲァィゥェォャュョッーアイウエオカキクケコサシスセソタチツテトナニヌネノハヒフヘホマミムメモヤユヨラリルレロワン゛゜".toList

/-- The place of a character in the row of halfwidth characters. -/
def halfwidth? (c : Char) : Option Nat :=
  if halfwidthStart ≤ c.toNat ∧ c.toNat < halfwidthStart + halfwidthCount then
    some (c.toNat - halfwidthStart)
  else none

/-- The halfwidth character at a place. -/
def halfwidthChar (place : Nat) : Char := Char.ofNat (halfwidthStart + place)

/-- The minus sign is written as the fullwidth hyphen-minus; any other character stays. -/
def unifyMinus (c : Char) : Char := if c = '\u2212' then '\uFF0D' else c

/-- The pointer of a character, the minus sign unified. -/
def pointer? (c : Char) : Option Nat := index.pointer? (unifyMinus c)

/-- The character at row and cell, both counted from zero. -/
def char? (row cell : Nat) : Option Char := index.char? (row * 94 + cell)

end CharStream.Encoding.Jis
