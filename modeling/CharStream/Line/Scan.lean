import CharStream.Reader

/-!
# Scanning one buffer for a line terminator

A scan copies characters from a source into a buffer until it meets a terminator, the end of the
stream, or the end of the buffer. The buffer is handed in and handed back so that one array serves
all scans; what it held before is overwritten, never looked at.

**The carriage return.** It ends a line alone or together with a line feed that follows. If the
line feed can only be in the next read, the scan takes one character more, even past the end of
the buffer. The caller rewinds the source afterwards, so that character is not lost.
-/

namespace CharStream.Line

variable {σ ε : Type}

/-- Whether a character ends a line. -/
def isBreak (c : Char) : Bool := c = '\r' || c = '\n'

/-- How a scan ended. Lengths are counted from where the scan began. -/
inductive ScanEnd where
  /-- A terminator follows `length` characters; with it they are `taken` characters. -/
  | terminated (length taken : Nat)
  /-- The stream ended after `length` characters. -/
  | exhausted (length : Nat)
  /-- The buffer is full and holds no terminator. -/
  | full
deriving DecidableEq

/-- Writes characters into a buffer from position `pos` on. A buffer that is too short grows. -/
def overwrite (buf : Array Char) (pos : Nat) : List Char → Array Char
  | [] => buf
  | c :: cs =>
    if h : pos < buf.size then overwrite (buf.set pos c) (pos + 1) cs
    else overwrite (buf.push c) (pos + 1) cs

/-- The first `n` characters of a buffer. -/
def text (buf : Array Char) (n : Nat) : String := String.ofList (buf.extract 0 n).toList

/-- Continues a scan that has filled `pos` of `capacity` places. -/
def scan [Reader σ ε] (capacity pos : Nat) (buf : Array Char) (s : σ) :
    Except ε ScanEnd × Array Char × σ :=
  if pos < capacity then
    match Reader.read (capacity - pos) s with
    | (.error e, s) => (.error e, buf, s)
    | (.ok [], s) => (.ok (.exhausted pos), buf, s)
    | (.ok (c :: cs), s) =>
      let buf := overwrite buf pos (c :: cs)
      let length := pos + ((c :: cs).takeWhile (!isBreak ·)).length
      match (c :: cs).dropWhile (!isBreak ·) with
      | [] => scan capacity (pos + (cs.length + 1)) buf s
      | ['\r'] =>
        match Reader.readChar s with
        | (.error e, s) => (.error e, buf, s)
        | (.ok next, s) =>
          (.ok (.terminated length (if next = some '\n' then length + 2 else length + 1)), buf, s)
      | '\r' :: '\n' :: _ => (.ok (.terminated length (length + 2)), buf, s)
      | _ => (.ok (.terminated length (length + 1)), buf, s)
  else (.ok .full, buf, s)
termination_by capacity - pos

end CharStream.Line
