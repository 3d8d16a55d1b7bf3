import WatchBitmap.Quoted.Hidden

/-!
# Quoted text

A text in quotes, as it is shown to whoever has to tell it from others: what is not seen by itself
is written as an escape.

* `Quoted.writeChar` — one character between quotes.
* `Quoted.write` — a text in quotes.
-/

namespace WatchBitmap.Quoted

/-- The letter of an escape that has one. -/
def letterOf? (c : Char) : Option Char :=
  if c = '\x00' then some '0'
  else if c = '\t' then some 't'
  else if c = '\r' then some 'r'
  else if c = '\n' then some 'n'
  else if c = '\\' then some '\\'
  else if c = '\"' then some '\"'
  else none

/-- A character by its number, in hexadecimal. -/
def numbered (c : Char) : List Char :=
  ['\\', 'u', '{'] ++ Nat.toDigits 16 c.toNat ++ ['}']

/-- A character between quotes. -/
def writeChar (c : Char) : List Char :=
  match letterOf? c with
  | some letter => ['\\', letter]
  | none => if isHidden c then numbered c else [c]

/-- **A text in quotes.** -/
def write (text : String) : String :=
  String.ofList ('\"' :: (text.toList.flatMap writeChar ++ ['\"']))

end WatchBitmap.Quoted
