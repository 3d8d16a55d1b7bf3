/-!
# Readers of JSON text

Configuration is read in one pass from the left, each reader taking a value off the front of the
text.  The first fault that is met decides, whatever follows it, so a text that is wrong in two
ways is reported for the one that comes first.

* `Fault` — the three ways in which a text can be wrong.
* `Reader` — what takes a value off the front of a text.
* `skipSpace`, `expectLetters` — the two readers that all others start from.
* `Reader.ofWhole` — reading a text that is one value and nothing else.
-/

namespace WatchBitmap.Json

/-- How a text is wrong. -/
inductive Fault where
  /-- It ends inside a value, or before one. -/
  | ended
  /-- It is not JSON, or not in the shape that its reader can take apart. -/
  | malformed
  /-- It is JSON and does not fit what is read. -/
  | unsuitable
deriving DecidableEq, Repr

/-- A reader takes a value off the front of a text and leaves the rest. -/
abbrev Reader (α : Type) := List Char → Except Fault (α × List Char)

/-- The four characters that may stand between tokens. -/
def isSpace (c : Char) : Bool :=
  c == ' ' || c == '\n' || c == '\t' || c == '\r'

/-- What follows the space at the front of a text. -/
def skipSpace (text : List Char) : List Char :=
  text.dropWhile isSpace

/-- Reads letters that are known in advance. -/
def expectLetters : List Char → Reader Unit
  | [], text => .ok ((), text)
  | _ :: _, [] => .error .ended
  | letter :: letters, c :: text =>
      if c = letter then expectLetters letters text else .error .malformed

/-- **A text that is one value.**  Only space may follow it. -/
def Reader.ofWhole {α : Type} (read : Reader α) (text : String) : Except Fault α := do
  let (value, rest) ← read text.toList
  if (skipSpace rest).isEmpty then return value else throw .malformed

end WatchBitmap.Json
