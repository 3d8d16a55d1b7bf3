import WatchBitmap.Json.Number
import WatchBitmap.Json.Text

/-!
# Values that nobody asked for

A value under an unknown key has to be JSON, however deep it nests.  The arrays and objects that
are still open are kept on a list, the innermost first.

* `Skip.value` — what follows a value.
-/

namespace WatchBitmap.Json.Skip

/-- An array or an object that is still open. -/
inductive Frame where
  | array
  | object
deriving DecidableEq, Repr

/-- The character that closes a frame. -/
def Frame.closer : Frame → Char
  | array => ']'
  | object => '}'

/-- What follows a value that is neither array nor object. -/
def scalar : List Char → Except Fault (List Char)
  | 'n' :: rest => (expectLetters ['u', 'l', 'l'] rest).map Prod.snd
  | 't' :: rest => (expectLetters ['r', 'u', 'e'] rest).map Prod.snd
  | 'f' :: rest => (expectLetters ['a', 'l', 's', 'e'] rest).map Prod.snd
  | '-' :: rest => Number.skip rest
  | '\"' :: rest => Text.skipBody rest
  | c :: rest => if (Number.digit? c).isSome then Number.skip (c :: rest) else .error .malformed
  | [] => .error .ended

/-- What follows a key and its colon. -/
def key (text : List Char) : Except Fault (List Char) :=
  match skipSpace text with
  | [] => .error .ended
  | '\"' :: rest => do
      let rest ← Text.skipBody rest
      match skipSpace rest with
      | [] => throw .ended
      | ':' :: rest => return rest
      | _ => throw .malformed
  | _ => .error .malformed

/-- What follows the key at this place, if the frame is one that has keys. -/
def keyIn : Frame → List Char → Except Fault (List Char)
  | .array, text => .ok text
  | .object, text => key text

/-- What comes next. -/
inductive Stage where
  /-- A value. -/
  | value
  /-- The first value of a frame, or its end. -/
  | first
  /-- The end of a value. -/
  | after

/-- **Skipping.**  With no frame open the end of a value is the end of it all. -/
def run : (fuel : Nat) → Stage → List Frame → List Char → Except Fault (List Char)
  | 0, _, _, _ => .error .ended
  | fuel + 1, .value, frames, text =>
      match skipSpace text with
      | '[' :: rest => run fuel .first (.array :: frames) rest
      | '{' :: rest => run fuel .first (.object :: frames) rest
      | text => do
          let rest ← scalar text
          run fuel .after frames rest
  | fuel + 1, .first, frame :: frames, text =>
      match skipSpace text with
      | [] => .error .ended
      | c :: rest =>
          if c = frame.closer then
            run fuel .after frames rest
          else do
            let rest ← keyIn frame (c :: rest)
            run fuel .value (frame :: frames) rest
  | fuel + 1, .after, frame :: frames, text =>
      match skipSpace text with
      | [] => .error .ended
      | c :: rest =>
          if c = frame.closer then
            run fuel .after frames rest
          else if c = ',' then do
            let rest ← keyIn frame rest
            run fuel .value (frame :: frames) rest
          else
            .error .malformed
  | _ + 1, _, [], text => .ok text

/-- What follows a value.  Every step but the last takes at least one character, or is the one
after which the next does. -/
def value (text : List Char) : Except Fault (List Char) :=
  run (2 * text.length + 2) .value [] text

end WatchBitmap.Json.Skip
