import CharStream.Count
import CharStream.Settings.Binary64
import CharStream.Text.Hex
import CharStream.Utf16

/-!
# Reading JSON from left to right

A record of settings is read in one pass, and the first thing that is wrong decides what is
reported: the text ends too soon, it is not JSON, or it is JSON of another shape than asked for.
So nothing is looked at before its turn, and a value of the wrong type is reported as soon as its
type is certain.

A value under an unknown key is skipped. It must be JSON all the same, but a skipped string may
name half of a surrogate pair, and a skipped number may be of any size.

A reader of a part takes the text from that part on and returns what it read and the text after.

This is for running alone, so that options can be given as text: no theorem rests on it.
-/

namespace CharStream.Json

/-- What is wrong with a text. -/
inductive Fault where
  /-- It ends too soon. -/
  | ended
  /-- It is not JSON. -/
  | malformed
  /-- It is JSON of another shape. -/
  | shape
deriving DecidableEq

/-- The text without the blanks at its front. -/
def skipBlank (cs : List Char) : List Char :=
  cs.dropWhile fun c => c = ' ' || c = '\n' || c = '\t' || c = '\r'

/-- The fault of a text that had to go on: it is at its end or goes on otherwise. -/
def endedOr (cs : List Char) : Fault := if cs.isEmpty then .ended else .malformed

/-! ## Strings -/

/-- The value of four hexadecimal digits. Fewer than four bytes are too few, whatever they are. -/
def hex4 : List Char → Except Fault Nat
  | a :: b :: c :: d :: _ =>
    match Text.hexValue? a, Text.hexValue? b, Text.hexValue? c, Text.hexValue? d with
    | some a, some b, some c, some d => .ok (((a * 16 + b) * 16 + c) * 16 + d)
    | _, _, _, _ => .error .malformed
  | cs => .error (if (String.ofList cs).utf8ByteSize < 4 then .ended else .malformed)

/-- The character that an escape of two characters stands for. -/
def shortEscape? (c : Char) : Option Char :=
  if c = '"' ∨ c = '\\' ∨ c = '/' then some c
  else if c = 'b' then some '\x08'
  else if c = 'f' then some '\x0C'
  else if c = 'n' then some '\n'
  else if c = 'r' then some '\r'
  else if c = 't' then some '\t'
  else none

/-- Reads what follows a backslash: the character, and how long the escape is. Where `strict` does
not hold, surrogates need no partner, and the character is of no use. -/
def escape (strict : Bool) : List Char → Except Fault (Char × Nat)
  | [] => .error .ended
  | 'u' :: cs => do
    let high ← hex4 cs
    if !strict then return (' ', 5)
    else if Utf16.isLow high.toUInt16 then .error .malformed
    else if Utf16.isHigh high.toUInt16 then
      match cs.drop 4 with
      | '\\' :: 'u' :: ds =>
        let low ← hex4 ds
        if Utf16.isLow low.toUInt16 then
          return (Utf16.combine high.toUInt16 low.toUInt16, 11)
        else .error .malformed
      | [] | ['\\'] => .error .ended
      | _ => .error .malformed
    else return (Char.ofNat high, 5)
  | c :: _ =>
    match shortEscape? c with
    | some d => .ok (d, 1)
    | none => .error .malformed

/-- Reads a string up to its closing quote, after the characters `out`, latest first. -/
def stringFrom (strict : Bool) (out : List Char) : List Char → Except Fault (String × List Char)
  | [] => .error .ended
  | '"' :: cs => .ok (String.ofList out.reverse, cs)
  | '\\' :: cs =>
    match escape strict cs with
    | .error e => .error e
    | .ok (c, n) => stringFrom strict (c :: out) (cs.drop n)
  | c :: cs => if c.toNat < 0x20 then .error .malformed else stringFrom strict (c :: out) cs
termination_by cs => cs.length
decreasing_by all_goals simp; try omega

/-- Reads a string after its opening quote. -/
def string (cs : List Char) : Except Fault (String × List Char) := stringFrom true [] cs

/-! ## Numbers -/

/-- A number without its sign: a significand of 64 bits, and the power of ten that it is multiplied
by. -/
structure Number where
  /-- Whether it is written without a fraction and an exponent. -/
  plain : Bool
  significand : Nat
  exponent : Int

/-- The value of a number that is written as a count is. A count has all its digits in the
significand. -/
def Number.count? (n : Number) : Option Nat :=
  if n.plain && n.exponent = 0 then some n.significand else none

/-- Whether a number is too large for a double. Its significand and its power of ten are rounded to
doubles before they are multiplied, so the bound on the number as written is not sharp. A power of
ten above the 308th is no double, and with a negative one no number is large. -/
def Number.isHuge (n : Number) : Bool :=
  if n.significand = 0 || n.exponent < 0 then false
  else if 308 < n.exponent then true
  else
    Binary64.overflow ≤
      Binary64.nearest n.significand * Binary64.nearest (Nat.pow 10 n.exponent.toNat)

/-- The digits at the front of a text. -/
def digitsOf (cs : List Char) : List Char := cs.takeWhile Char.isDigit

/-- The value of a digit. -/
def digitValue (d : Char) : Nat := d.toNat - 0x30

/-- Digits read as a number. -/
def valueOf (ds : List Char) : Nat := ds.foldl (fun n d => n * 10 + digitValue d) 0

/-- Appends digits to the significand `n` as long as it stays within 64 bits: the significand, and
how many digits are left over from the first that does not fit. -/
def extend (n : Nat) : List Char → Nat × Nat
  | [] => (n, 0)
  | d :: ds =>
    let m := n * 10 + digitValue d
    if m ≤ Count.largest then extend m ds else (n, ds.length + 1)

/-- Reads the exponent of a number, if there is one. -/
def exponent (n : Number) : List Char → Except Fault (Number × List Char)
  | [] => .ok (n, [])
  | c :: cs =>
    if c = 'e' ∨ c = 'E' then
      let (negative, cs) := match cs with
        | '-' :: cs => (true, cs)
        | '+' :: cs => (false, cs)
        | cs => (false, cs)
      let ds := digitsOf cs
      let rest := cs.drop ds.length
      if ds.isEmpty then .error (endedOr rest)
      else
        let e : Int := valueOf ds
        .ok ({ n with plain := false, exponent := n.exponent + (if negative then -e else e) }, rest)
    else .ok (n, c :: cs)

/-- Reads the fraction and the exponent of a number with the significand `n` so far,
`leftover` of its whole digits not being in it. Such a digit still counts as a place, while a digit
of the fraction that does not fit is dropped. -/
def fraction (n leftover : Nat) : List Char → Except Fault (Number × List Char)
  | '.' :: cs =>
    let ds := digitsOf cs
    let rest := cs.drop ds.length
    if ds.isEmpty then .error (endedOr rest)
    else
      let (m, beyond) := extend n ds
      let places : Int := ds.length - beyond
      exponent { plain := false, significand := m, exponent := leftover - places } rest
  | cs => exponent { plain := true, significand := n, exponent := leftover } cs

/-- Reads a number after its sign. -/
def number (cs : List Char) : Except Fault (Number × List Char) :=
  match cs with
  | '0' :: rest => if (digitsOf rest).isEmpty then fraction 0 0 rest else .error .malformed
  | _ =>
    let ds := digitsOf cs
    let (n, leftover) := extend 0 ds
    if ds.isEmpty then .error (endedOr cs) else fraction n leftover (cs.drop ds.length)

/-! ## Words -/

/-- Reads the rest of a word. -/
def word : List Char → List Char → Except Fault (List Char)
  | [], cs => .ok cs
  | _ :: _, [] => .error .ended
  | w :: ws, c :: cs => if w = c then word ws cs else .error .malformed

/-- The rest of the word that a letter begins. -/
def wordOf? (c : Char) : Option (List Char) :=
  if c = 'n' then some ['u', 'l', 'l']
  else if c = 't' then some ['r', 'u', 'e']
  else if c = 'f' then some ['a', 'l', 's', 'e']
  else none

/-! ## Values of another type -/

/-- The fault of a value that is not of the type asked for. A word, a number or a string is read
first, since it may not even be one; of an array or an object the bracket is enough. -/
def wrongType : List Char → Fault
  | [] => .ended
  | '[' :: _ | '\x7b' :: _ => .shape
  | '"' :: cs =>
    match string cs with
    | .ok _ => .shape
    | .error e => e
  | c :: cs =>
    if c = '-' ∨ c.isDigit then
      match number (if c = '-' then cs else c :: cs) with
      | .ok (n, _) => if n.isHuge then .malformed else .shape
      | .error e => e
    else match wordOf? c with
      | some w =>
        match word w cs with
        | .ok _ => .shape
        | .error e => e
      | none => .malformed

/-! ## Skipping -/

/-- A bracket that is open. -/
inductive Bracket where
  | array
  | object
deriving DecidableEq

/-- What comes next of a value that is skipped. -/
inductive Expect where
  | value
  | key
  /-- A comma or a closing bracket, or nothing if no bracket is open. -/
  | after

/-- Skips on inside the brackets `opened`, innermost first. Each step takes a character at least, so
the length of the text is fuel enough. -/
def skipFrom : Nat → Expect → List Bracket → List Char → Except Fault (List Char)
  | 0, _, _, _ => .error .malformed
  | _ + 1, .after, [], cs => .ok cs
  | fuel + 1, expect, opened, cs =>
    match expect, opened, skipBlank cs with
    | _, _, [] => .error .ended
    | .after, .array :: outer, c :: cs =>
      if c = ',' then skipFrom fuel .value opened cs
      else if c = ']' then skipFrom fuel .after outer cs
      else .error .malformed
    | .after, .object :: outer, c :: cs =>
      if c = ',' then skipFrom fuel .key opened cs
      else if c = '\x7d' then skipFrom fuel .after outer cs
      else .error .malformed
    | .after, [], cs => .ok cs
    | .key, _, '"' :: cs =>
      match stringFrom false [] cs with
      | .error e => .error e
      | .ok (_, cs) =>
        match skipBlank cs with
        | ':' :: cs => skipFrom fuel .value opened cs
        | cs => .error (endedOr cs)
    | .key, _, _ => .error .malformed
    | .value, _, '[' :: cs =>
      match skipBlank cs with
      | ']' :: cs => skipFrom fuel .after opened cs
      | cs => skipFrom fuel .value (.array :: opened) cs
    | .value, _, '\x7b' :: cs =>
      match skipBlank cs with
      | '\x7d' :: cs => skipFrom fuel .after opened cs
      | cs => skipFrom fuel .key (.object :: opened) cs
    | .value, _, '"' :: cs =>
      match stringFrom false [] cs with
      | .error e => .error e
      | .ok (_, cs) => skipFrom fuel .after opened cs
    | .value, _, c :: cs =>
      if c = '-' ∨ c.isDigit then
        match number (if c = '-' then cs else c :: cs) with
        | .error _ => .error .malformed
        | .ok (_, cs) => skipFrom fuel .after opened cs
      else match wordOf? c with
        | none => .error .malformed
        | some w =>
          match word w cs with
          | .error e => .error e
          | .ok cs => skipFrom fuel .after opened cs

/-- Skips one value. -/
def skip (cs : List Char) : Except Fault (List Char) := skipFrom (cs.length + 2) .value [] cs

/-! ## A record with one field -/

/-- Reads the colon after a key. -/
def colon (cs : List Char) : Except Fault (List Char) :=
  match skipBlank cs with
  | ':' :: cs => .ok cs
  | cs => .error (endedOr cs)

/-- Looks for the next key of an object: `true` and the text behind its opening quote, or `false`
and the text behind the closing bracket. -/
def nextKey (first : Bool) (cs : List Char) : Except Fault (Bool × List Char) :=
  match skipBlank cs with
  | [] => .error .ended
  | '\x7d' :: cs => .ok (false, cs)
  | c :: cs =>
    if first then
      if c = '"' then .ok (true, cs) else .error .malformed
    else if c = ',' then
      match skipBlank cs with
      | '"' :: cs => .ok (true, cs)
      | cs => .error (endedOr cs)
    else .error .malformed

variable {α : Type}

/-- Reads the members of an object, `found` being the value of `key` so far. Any other key is
skipped; the same key twice is a fault of shape. -/
def members (key : String) (value : List Char → Except Fault (α × List Char)) :
    Nat → Bool → Option α → List Char → Except Fault (Option α × List Char)
  | 0, _, _, _ => .error .malformed
  | fuel + 1, first, found, cs => do
    match ← nextKey first cs with
    | (false, cs) => return (found, cs)
    | (true, cs) =>
      let (name, cs) ← string cs
      if name = key then
        if found.isSome then .error .shape
        else
          let (a, cs) ← value (← colon cs)
          members key value fuel false (some a) cs
      else
        let cs ← skip (← colon cs)
        members key value fuel false found cs

/-- Reads the rest of an array that holds at most one value. -/
def element (value : List Char → Except Fault (α × List Char)) (cs : List Char) :
    Except Fault (Option α × List Char) :=
  match skipBlank cs with
  | ']' :: cs => .ok (none, cs)
  | [] => .error .ended
  | cs => do
    let (a, cs) ← value cs
    match skipBlank cs with
    | ']' :: cs => return (some a, cs)
    | cs => .error (endedOr cs)

/-- Reads a record with one field: an object that may have the field under `key`, or an array that
may have it as its one element. `none` says that the field is not there. -/
def record (key : String) (value : List Char → Except Fault (α × List Char)) (text : List Char) :
    Except Fault (Option α) := do
  let (found, cs) ← match skipBlank text with
    | '\x7b' :: cs => members key value (cs.length + 1) true none cs
    | '[' :: cs => element value cs
    | cs => .error (wrongType cs)
  if (skipBlank cs).isEmpty then return found else .error .malformed

/-! ## Writing -/

/-- A character inside quotes. -/
def escaped (c : Char) : List Char :=
  if c = '"' ∨ c = '\\' then ['\\', c]
  else if c = '\x08' then ['\\', 'b']
  else if c = '\x0C' then ['\\', 'f']
  else if c = '\n' then ['\\', 'n']
  else if c = '\r' then ['\\', 'r']
  else if c = '\t' then ['\\', 't']
  else if c.toNat < 0x20 then
    ['\\', 'u', '0', '0', HexCase.lower.digit (c.toNat / 16), HexCase.lower.digit (c.toNat % 16)]
  else [c]

/-- A string between quotes. -/
def quoted (s : String) : String := String.ofList ('"' :: s.toList.flatMap escaped ++ ['"'])

/-- An object with one member, whose value is written already. -/
def object (key value : String) : String := "\x7b" ++ quoted key ++ ":" ++ value ++ "\x7d"

end CharStream.Json
