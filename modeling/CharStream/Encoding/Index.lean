/-!
# Indexes of the encodings of pairs

The East Asian encodings number their characters by *pointers*, which they compute from two bytes.
An index says which character a pointer stands for.

The indexes here are selections: each lists the entries that programs are run on, not the whole
table of its standard. A pointer without an entry counts as malformed, and a character without an
entry as one that the encoding lacks. So no result is about these tables; results are over any
library of encodings.
-/

namespace CharStream.Encoding

/-- Pointers and their characters, by ascending pointer. -/
abbrev Index := List (Nat × Char)

/-- The character at a pointer. -/
def Index.char? (index : Index) (pointer : Nat) : Option Char := index.lookup pointer

/-- The first pointer to a character. -/
def Index.pointer? (index : Index) (c : Char) : Option Nat :=
  (index.find? (·.2 == c)).map (·.1)

end CharStream.Encoding
