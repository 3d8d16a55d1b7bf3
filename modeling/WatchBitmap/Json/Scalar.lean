import WatchBitmap.Json.Number
import WatchBitmap.Json.Text

/-!
# Strings, truth values, bytes and null

* `refuse` — the fault of a value that is not of the kind that is read.  A scalar is read to its
  end first, for it may be malformed; of an array or an object the first character is enough.
* `string`, `bool`, `byte`, `null`, `optional` — the readers.
* `writeBool`, `writeByte`, `writeOptional` — the writers beside them.
-/

namespace WatchBitmap.Json

/-- The fault of a value whose reader came to an end. -/
def unwanted {α : Type} : Except Fault α → Fault
  | .error fault => fault
  | .ok _ => .unsuitable

/-- **The fault of a value that is not wanted.** -/
def refuse : List Char → Fault
  | [] => .ended
  | 'n' :: rest => unwanted (expectLetters ['u', 'l', 'l'] rest)
  | 't' :: rest => unwanted (expectLetters ['r', 'u', 'e'] rest)
  | 'f' :: rest => unwanted (expectLetters ['a', 'l', 's', 'e'] rest)
  | '-' :: rest => unwanted (Number.read true rest)
  | '\"' :: rest => unwanted (Text.readBody rest)
  | '[' :: _ => .unsuitable
  | '{' :: _ => .unsuitable
  | c :: rest =>
      if (Number.digit? c).isSome then unwanted (Number.read false (c :: rest)) else .malformed

/-- Reads a string. -/
def string : Reader String := fun text =>
  match skipSpace text with
  | '\"' :: rest => Text.read rest
  | text => .error (refuse text)

/-- Reads a truth value. -/
def bool : Reader Bool := fun text =>
  match skipSpace text with
  | 't' :: rest => (expectLetters ['r', 'u', 'e'] rest).map fun (_, rest) => (true, rest)
  | 'f' :: rest => (expectLetters ['a', 'l', 's', 'e'] rest).map fun (_, rest) => (false, rest)
  | text => .error (refuse text)

/-- A number that is a byte. -/
def byteOf : Number.Value → Except Fault UInt8
  | .natural n => if n < 256 then .ok (UInt8.ofNat n) else .error .unsuitable
  | .other => .error .unsuitable

/-- Reads a byte. -/
def byte : Reader UInt8 := fun text =>
  match skipSpace text with
  | [] => .error .ended
  | c :: rest =>
      if (Number.digit? c).isSome then do
        let (value, rest) ← Number.read false (c :: rest)
        let b ← byteOf value
        return (b, rest)
      else
        .error (refuse (c :: rest))

/-- Reads a null. -/
def null : Reader Unit := fun text =>
  match skipSpace text with
  | 'n' :: rest => expectLetters ['u', 'l', 'l'] rest
  | text => .error (refuse text)

/-- Reads a value or a null. -/
def optional {α : Type} (read : Reader α) : Reader (Option α) := fun text =>
  match skipSpace text with
  | 'n' :: rest => (expectLetters ['u', 'l', 'l'] rest).map fun (_, rest) => (none, rest)
  | text => (read text).map fun (value, rest) => (some value, rest)

/-- Writes a truth value. -/
def writeBool : Bool → List Char
  | true => ['t', 'r', 'u', 'e']
  | false => ['f', 'a', 'l', 's', 'e']

/-- Writes a byte. -/
def writeByte (b : UInt8) : List Char :=
  (toString b.toNat).toList

/-- Writes a value, or null if there is none. -/
def writeOptional {α : Type} (write : α → List Char) : Option α → List Char
  | none => ['n', 'u', 'l', 'l']
  | some value => write value

end WatchBitmap.Json
