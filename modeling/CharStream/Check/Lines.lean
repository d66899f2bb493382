import CharStream.Line.Scanner
import CharStream.Line.Split
import CharStream.Reader.Chunked
import CharStream.ReplayBuffer
import CharStream.TextSource

/-!
# Checking the line scanner against the splitter

Reads a text in small pieces through a small scan buffer and compares the lines with those of the
text as a whole. The two must agree for every text, every buffer and every size of the pieces.
-/

namespace CharStream.Check

/-- A scanner with these options over a text that comes in pieces of at most `readSize`. -/
def scannerOf (text : String) (options : LineOptions) (readSize : Nat) :
    LineScanner (ReplayBuffer (Chunked TextSource)) :=
  { source :=
      { inner := { inner := .ofString text, most := max readSize 1 }
        capacity := options.readAhead }
    options }

/-- Whether the scanner yields the lines of the text and then stays at the end. A buffer of length
zero is no buffer, and there is nothing to check. -/
def lines (text : String) (maxLineLength readSize : Nat) : Bool :=
  match LineOptions.ofLength? maxLineLength with
  | none => true
  | some options =>
    let fuel := text.length + 1
    match (scannerOf text options readSize).items fuel fuel with
    | none => false
    | some (items, r) =>
      items.mapM Except.toOption == some (Line.split text.toList)
        && match r.nextLine fuel with
          | some (.ok none, _) => true
          | _ => false

end CharStream.Check
