import WatchBitmap.Json.Scalar

/-!
# Arrays and objects

* `nextElement`, `endArray` — what stands between the elements of an array, and behind the last.
* `nextKey`, `colon`, `endObject` — the same for the entries of an object.
* `array`, `entries` — an array of equal elements, an object of equal entries.
* `writeArray`, `writeObject` — the writers beside them, without space.
-/

namespace WatchBitmap.Json

/-- Whether an element follows in an array, of which nothing has been read yet or an element just
was.  The closing bracket is left where it is. -/
def nextElement (first : Bool) (text : List Char) : Except Fault (Bool × List Char) :=
  match skipSpace text with
  | [] => .error .ended
  | ']' :: rest => .ok (false, ']' :: rest)
  | c :: rest =>
      if first then .ok (true, c :: rest)
      else if c = ',' then
        match skipSpace rest with
        | [] => .error .ended
        | ']' :: _ => .error .malformed
        | rest => .ok (true, rest)
      else .error .malformed

/-- Takes off the bracket that closes an array. -/
def endArray (text : List Char) : Except Fault (List Char) :=
  match skipSpace text with
  | [] => .error .ended
  | ']' :: rest => .ok rest
  | _ => .error .malformed

/-- The next key of an object, of which nothing has been read yet or an entry just was.  The
closing brace is left where it is. -/
def nextKey (first : Bool) (text : List Char) : Except Fault (Option String × List Char) :=
  match skipSpace text with
  | [] => .error .ended
  | '}' :: rest => .ok (none, '}' :: rest)
  | c :: rest =>
      if first then key (c :: rest)
      else if c = ',' then
        match skipSpace rest with
        | [] => .error .ended
        | rest => key rest
      else .error .malformed
where
  /-- A key has to be a string. -/
  key : List Char → Except Fault (Option String × List Char)
    | '\"' :: rest => (Text.read rest).map fun (name, rest) => (some name, rest)
    | _ => .error .malformed

/-- Takes off the colon behind a key. -/
def colon (text : List Char) : Except Fault (List Char) :=
  match skipSpace text with
  | [] => .error .ended
  | ':' :: rest => .ok rest
  | _ => .error .malformed

/-- Takes off the brace that closes an object. -/
def endObject (text : List Char) : Except Fault (List Char) :=
  match skipSpace text with
  | [] => .error .ended
  | '}' :: rest => .ok rest
  | _ => .error .malformed

variable {α : Type}

/-- The elements of an array up to its closing bracket, at most `fuel` of them. -/
def elementsFrom (read : Reader α) :
    (fuel : Nat) → (first : Bool) → List Char → Except Fault (List α × List Char)
  | 0, _, _ => .error .ended
  | fuel + 1, first, text => do
      let (more, text) ← nextElement first text
      if more then
        let (x, text) ← read text
        let (xs, text) ← elementsFrom read fuel false text
        return (x :: xs, text)
      else
        return ([], text)

/-- **An array of equal elements.**  Each takes at least one character. -/
def array (read : Reader α) : Reader (List α) := fun text =>
  match skipSpace text with
  | '[' :: rest => do
      let (xs, rest) ← elementsFrom read (rest.length + 1) true rest
      let rest ← endArray rest
      return (xs, rest)
  | text => .error (refuse text)

/-- The entries of an object up to its closing brace, at most `fuel` of them. -/
def entriesFrom (read : Reader α) :
    (fuel : Nat) → (first : Bool) → List Char → Except Fault (List (String × α) × List Char)
  | 0, _, _ => .error .ended
  | fuel + 1, first, text => do
      let (name?, text) ← nextKey first text
      match name? with
      | none => return ([], text)
      | some name =>
          let text ← colon text
          let (x, text) ← read text
          let (xs, text) ← entriesFrom read fuel false text
          return ((name, x) :: xs, text)

/-- **An object of equal entries**, in the order of the text. -/
def entries (read : Reader α) : Reader (List (String × α)) := fun text =>
  match skipSpace text with
  | '{' :: rest => do
      let (xs, rest) ← entriesFrom read (rest.length + 1) true rest
      let rest ← endObject rest
      return (xs, rest)
  | text => .error (refuse text)

/-- What is between two brackets: the parts, with commas between them. -/
def writeParts : List (List Char) → List Char
  | [] => []
  | [part] => part
  | part :: parts => part ++ ',' :: writeParts parts

/-- Writes an array of values that are written already. -/
def writeArray (values : List (List Char)) : List Char :=
  '[' :: (writeParts values ++ [']'])

/-- Writes one entry of an object. -/
def writeEntry (entry : String × List Char) : List Char :=
  Text.write entry.1 ++ ':' :: entry.2

/-- Writes an object of values that are written already. -/
def writeObject (entries : List (String × List Char)) : List Char :=
  '{' :: (writeParts (entries.map writeEntry) ++ ['}'])

end WatchBitmap.Json
