import WatchBitmap.Hex
import WatchBitmap.Json.Reader

/-!
# Strings in JSON text

* `Text.write` — a string in quotes.  Quotes, backslashes and control characters are escaped, all
  else stands for itself.
* `Text.readBody` — the characters up to the closing quote.
* `Text.skipBody` — the same stretch of text, where its characters do not matter.  Escaped halves
  of a character need not pair up there.
-/

namespace WatchBitmap.Json.Text

/-! ## Writing -/

/-- The escapes that have a letter of their own. -/
def letterOf? (c : Char) : Option Char :=
  if c = '\"' then some '\"'
  else if c = '\\' then some '\\'
  else if c = '\x08' then some 'b'
  else if c = '\t' then some 't'
  else if c = '\n' then some 'n'
  else if c = '\x0c' then some 'f'
  else if c = '\r' then some 'r'
  else none

/-- A character inside quotes. -/
def writeChar (c : Char) : List Char :=
  match letterOf? c with
  | some letter => ['\\', letter]
  | none =>
      if c.toNat < 32 then
        ['\\', 'u', '0', '0', Hex.digit (c.toNat / 16), Hex.digit (c.toNat % 16)]
      else
        [c]

/-- A string in quotes. -/
def write (s : String) : List Char :=
  '\"' :: (s.toList.flatMap writeChar ++ ['\"'])

/-! ## Reading -/

/-- The four hexadecimal digits of an escaped unit.  Fewer than four bytes are a text that ends
too soon, whatever they are. -/
def readUnit (text : List Char) : Except Fault (Nat × List Char) :=
  if (String.ofList (text.take 4)).utf8ByteSize < 4 then
    .error .ended
  else
    match text with
    | a :: b :: c :: d :: rest =>
        match Hex.value? a, Hex.value? b, Hex.value? c, Hex.value? d with
        | some a, some b, some c, some d => .ok (a * 4096 + b * 256 + c * 16 + d, rest)
        | _, _, _, _ => .error .malformed
    | _ => .error .malformed

/-- A unit is the first half of a character. -/
def isLeading (unit : Nat) : Bool :=
  0xd800 ≤ unit && unit ≤ 0xdbff

/-- A unit is the second half of a character. -/
def isTrailing (unit : Nat) : Bool :=
  0xdc00 ≤ unit && unit ≤ 0xdfff

/-- The character of two halves. -/
def join (leading trailing : Nat) : Char :=
  Char.ofNat ((leading - 0xd800) * 0x400 + (trailing - 0xdc00) + 0x10000)

/-- The second half of a character whose first half has been read. -/
def readTrailing (leading : Nat) : List Char → Except Fault (Char × List Char)
  | [] => .error .ended
  | ['\\'] => .error .ended
  | '\\' :: 'u' :: rest => do
      let (trailing, rest) ← readUnit rest
      if isTrailing trailing then return (join leading trailing, rest) else throw .malformed
  | _ => .error .malformed

/-- The character of an escaped unit, with its second half if it is a first. -/
def readEscapedUnit (text : List Char) : Except Fault (Char × List Char) := do
  let (unit, rest) ← readUnit text
  if isTrailing unit then throw .malformed
  else if isLeading unit then readTrailing unit rest
  else return (Char.ofNat unit, rest)

/-- The character that a letter stands for behind a backslash. -/
def ofLetter? (letter : Char) : Option Char :=
  if letter = '\"' then some '\"'
  else if letter = '\\' then some '\\'
  else if letter = '/' then some '/'
  else if letter = 'b' then some '\x08'
  else if letter = 'f' then some '\x0c'
  else if letter = 'n' then some '\n'
  else if letter = 'r' then some '\r'
  else if letter = 't' then some '\t'
  else none

/-- What a backslash introduces. -/
def readEscape : List Char → Except Fault (Char × List Char)
  | [] => .error .ended
  | 'u' :: rest => readEscapedUnit rest
  | letter :: rest =>
      match ofLetter? letter with
      | some c => .ok (c, rest)
      | none => .error .malformed

/-- What a backslash introduces, where it does not matter which character it is. -/
def skipEscape : List Char → Except Fault (List Char)
  | [] => .error .ended
  | 'u' :: rest => (readUnit rest).map Prod.snd
  | letter :: rest => if (ofLetter? letter).isSome then .ok rest else .error .malformed

theorem length_readUnit {text rest : List Char} {unit : Nat}
    (h : readUnit text = .ok (unit, rest)) : rest.length < text.length := by
  unfold readUnit at h
  split at h
  · simp at h
  · split at h
    · split at h
      · obtain ⟨-, rfl⟩ := by simpa using h
        simp only [List.length_cons]
        omega
      · simp at h
    · simp at h

theorem length_readTrailing {leading : Nat} {text rest : List Char} {c : Char}
    (h : readTrailing leading text = .ok (c, rest)) : rest.length < text.length := by
  unfold readTrailing at h
  split at h
  · simp at h
  · simp at h
  · next tail =>
      cases hunit : readUnit tail with
      | error fault => simp [hunit, bind, Except.bind] at h
      | ok pair =>
          obtain ⟨trailing, rest'⟩ := pair
          have hlt := length_readUnit hunit
          simp only [hunit, bind, Except.bind] at h
          split at h
          · obtain ⟨-, rfl⟩ := by simpa [pure, Except.pure] using h
            simp only [List.length_cons]
            omega
          · simp [throw, throwThe, MonadExceptOf.throw] at h
  · simp at h

theorem length_readEscape {text rest : List Char} {c : Char}
    (h : readEscape text = .ok (c, rest)) : rest.length < text.length := by
  unfold readEscape at h
  split at h
  · simp at h
  · next tail =>
      unfold readEscapedUnit at h
      cases hunit : readUnit tail with
      | error fault => simp [hunit, bind, Except.bind] at h
      | ok pair =>
          obtain ⟨unit, rest'⟩ := pair
          have hlt := length_readUnit hunit
          simp only [hunit, bind, Except.bind] at h
          split at h
          · simp [throw, throwThe, MonadExceptOf.throw] at h
          · split at h
            · have := length_readTrailing h
              simp only [List.length_cons]
              omega
            · obtain ⟨-, rfl⟩ := by simpa [pure, Except.pure] using h
              simp only [List.length_cons]
              omega
  · split at h
    · obtain ⟨-, rfl⟩ := by simpa using h
      simp
    · simp at h

theorem length_skipEscape {text rest : List Char}
    (h : skipEscape text = .ok rest) : rest.length < text.length := by
  unfold skipEscape at h
  split at h
  · simp at h
  · next tail =>
      cases hunit : readUnit tail with
      | error fault => simp [hunit, Except.map] at h
      | ok pair =>
          have hlt := length_readUnit hunit
          simp only [hunit, Except.map, Except.ok.injEq] at h
          subst h
          simp only [List.length_cons]
          omega
  · split at h
    · obtain rfl := by simpa using h
      simp
    · simp at h

/-- **The characters up to the closing quote**, which is taken off too.  A control character has
to be escaped. -/
def readBody : List Char → Except Fault (List Char × List Char)
  | [] => .error .ended
  | c :: rest =>
      if c = '\"' then
        .ok ([], rest)
      else if c = '\\' then
        match _h : readEscape rest with
        | .error fault => .error fault
        | .ok (e, rest) => (readBody rest).map fun (cs, rest) => (e :: cs, rest)
      else if c.toNat < 32 then
        .error .malformed
      else
        (readBody rest).map fun (cs, rest) => (c :: cs, rest)
termination_by text => text.length
decreasing_by
  · have := length_readEscape (by assumption)
    simp only [List.length_cons]
    omega
  · simp

/-- What follows the closing quote. -/
def skipBody : List Char → Except Fault (List Char)
  | [] => .error .ended
  | c :: rest =>
      if c = '\"' then
        .ok rest
      else if c = '\\' then
        match _h : skipEscape rest with
        | .error fault => .error fault
        | .ok rest => skipBody rest
      else if c.toNat < 32 then
        .error .malformed
      else
        skipBody rest
termination_by text => text.length
decreasing_by
  · have := length_skipEscape (by assumption)
    simp only [List.length_cons]
    omega
  · simp

/-- A string behind its opening quote. -/
def read : Reader String := fun text =>
  (readBody text).map fun (cs, rest) => (String.ofList cs, rest)

end WatchBitmap.Json.Text
