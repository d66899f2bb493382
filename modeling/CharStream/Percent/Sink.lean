/-!
# Sinks

A sink takes characters one at a time. It may have room for only so many; one that is full refuses
and keeps what it has.
-/

namespace CharStream

/-- The text taken so far, and how many more characters fit if that is bounded. -/
structure Sink where
  text : String := ""
  room : Option Nat := none
deriving DecidableEq

namespace Sink

/-- Takes one character and says whether there was room for it. -/
def put (c : Char) : Sink → Bool × Sink
  | ⟨text, none⟩ => (true, ⟨text.push c, none⟩)
  | ⟨text, some 0⟩ => (false, ⟨text, some 0⟩)
  | ⟨text, some (n + 1)⟩ => (true, ⟨text.push c, some n⟩)

/-- Takes characters until one is refused, and says whether all were taken. -/
def putAll : List Char → Sink → Bool × Sink
  | [], s => (true, s)
  | c :: cs, s =>
    match s.put c with
    | (false, s) => (false, s)
    | (true, s) => putAll cs s

end Sink

end CharStream
