import WatchBitmap.Json.Reader
import WatchBitmap.Significand

/-!
# Numbers in JSON text

A number is kept as a significand and a power of ten.  The significand grows digit by digit up to
`significandLimit`; of the digits past it only the scale of the whole part is kept.  A number whose
nearest binary64 value is infinite is no number.

* `Number.read` — a number behind its sign.  Only a plain one is told apart from the others.
* `Number.skip` — the same stretch of text, where its value does not matter.
-/

namespace WatchBitmap.Json.Number

/-- The largest significand. -/
def significandLimit : Nat := 0xffffffffffffffff

/-- The value of a decimal digit. -/
def digit? (c : Char) : Option Nat :=
  if '0' ≤ c ∧ c ≤ '9' then some (c.toNat - 48) else none

/-- Whether a text goes on with a digit. -/
def startsWithDigit : List Char → Bool
  | [] => false
  | c :: _ => (digit? c).isSome

/-- What follows the digits at the front of a text. -/
def skipDigits (text : List Char) : List Char :=
  text.dropWhile fun c => (digit? c).isSome

/-- How many digits there are at the front of a text. -/
def countDigits (text : List Char) : Nat :=
  (text.takeWhile fun c => (digit? c).isSome).length

/-- A significand, and the power of ten that scales it. -/
structure Decimal where
  significand : Nat
  exponent : Int
deriving DecidableEq, Repr

/-- The digits of a whole part, appended to a significand. -/
def readWhole (significand : Nat) : List Char → Decimal × List Char
  | [] => (⟨significand, 0⟩, [])
  | c :: rest =>
      match digit? c with
      | none => (⟨significand, 0⟩, c :: rest)
      | some digit =>
          if significand * 10 + digit ≤ significandLimit then
            readWhole (significand * 10 + digit) rest
          else
            (⟨significand, countDigits (c :: rest)⟩, skipDigits (c :: rest))

/-- The digits of a fraction, appended to a significand. -/
def readFraction (d : Decimal) : List Char → Decimal × List Char
  | [] => (d, [])
  | c :: rest =>
      match digit? c with
      | none => (d, c :: rest)
      | some digit =>
          if d.significand * 10 + digit ≤ significandLimit then
            readFraction ⟨d.significand * 10 + digit, d.exponent - 1⟩ rest
          else
            (d, skipDigits (c :: rest))

/-- The digits of an exponent. -/
def readExponent (exponent : Nat) : List Char → Nat × List Char
  | [] => (exponent, [])
  | c :: rest =>
      match digit? c with
      | none => (exponent, c :: rest)
      | some digit => readExponent (exponent * 10 + digit) rest

/-- The significant bits of a binary64 number. -/
def doubleBits : Nat := 53

/-- The largest power of ten that is a binary64 number. -/
def maxPower : Nat := 308

/-- **Too large.**  The significand and the power of ten are rounded to binary64 and so is their
product, and that product is infinite. -/
def Decimal.isInfinite (d : Decimal) : Bool :=
  d.significand ≠ 0 && 0 ≤ d.exponent &&
    (maxPower < d.exponent.toNat ||
      1 <<< 1024 ≤ Significand.round doubleBits
        (Significand.round doubleBits d.significand
          * Significand.round doubleBits (Nat.pow 10 d.exponent.toNat)))

/-- What a number is to whoever wants a natural one. -/
inductive Value where
  /-- Digits only. -/
  | natural (n : Nat)
  /-- Negative, or with a fraction or an exponent, or too long for a significand. -/
  | other
deriving DecidableEq, Repr

/-- Ends a number that has left the naturals. -/
def finish (d : Decimal) (rest : List Char) : Except Fault (Value × List Char) :=
  if d.isInfinite then .error .malformed else .ok (.other, rest)

/-- Whether a character introduces an exponent. -/
def isExponentMark (c : Char) : Bool :=
  c == 'e' || c == 'E'

/-- The sign of an exponent, `true` for a minus. -/
def readSign : List Char → Bool × List Char
  | '+' :: rest => (false, rest)
  | '-' :: rest => (true, rest)
  | rest => (false, rest)

/-- Requires a digit at the front of a text. -/
def requireDigit (text : List Char) : Except Fault Unit :=
  if startsWithDigit text then .ok ()
  else if text.isEmpty then .error .ended
  else .error .malformed

/-- An exponent behind its mark. -/
def readScale (d : Decimal) (text : List Char) : Except Fault (Value × List Char) := do
  let (negative, text) := readSign text
  requireDigit text
  let (exponent, rest) := readExponent 0 text
  finish ⟨d.significand, if negative then d.exponent - exponent else d.exponent + exponent⟩ rest

/-- What may follow the digits of a fraction. -/
def afterFraction (d : Decimal) : List Char → Except Fault (Value × List Char)
  | c :: rest => if isExponentMark c then readScale d rest else finish d (c :: rest)
  | [] => finish d []

/-- What may follow the digits of a whole part. -/
def afterWhole (negative : Bool) (d : Decimal) (long : Bool) :
    List Char → Except Fault (Value × List Char)
  | '.' :: rest => do
      requireDigit rest
      let (d, rest) := readFraction d rest
      afterFraction d rest
  | text =>
      if text.head?.any isExponentMark then readScale d text.tail
      else if long then finish d text
      else if negative then .ok (.other, text)
      else .ok (.natural d.significand, text)

/-- **A number behind its sign.**  A zero is not followed by a digit. -/
def read (negative : Bool) : List Char → Except Fault (Value × List Char)
  | [] => .error .ended
  | '0' :: rest =>
      if startsWithDigit rest then .error .malformed else afterWhole negative ⟨0, 0⟩ false rest
  | c :: rest =>
      if (digit? c).isSome then
        let (d, rest) := readWhole 0 (c :: rest)
        afterWhole negative d (d.exponent ≠ 0) rest
      else
        .error .malformed

/-! ## Numbers that do not matter -/

/-- What follows an exponent behind its mark. -/
def skipScale (text : List Char) : Except Fault (List Char) :=
  let (_, text) := readSign text
  if startsWithDigit text then .ok (skipDigits text) else .error .malformed

/-- What follows a fraction or an exponent, if there is one. -/
def skipAfterWhole : List Char → Except Fault (List Char)
  | '.' :: rest =>
      if startsWithDigit rest then
        match skipDigits rest with
        | c :: rest => if isExponentMark c then skipScale rest else .ok (c :: rest)
        | [] => .ok []
      else
        .error .malformed
  | c :: rest => if isExponentMark c then skipScale rest else .ok (c :: rest)
  | [] => .ok []

/-- What follows a number, given behind its sign.  Its size does not matter, and one that the text
cuts short is malformed. -/
def skip : List Char → Except Fault (List Char)
  | [] => .error .malformed
  | '0' :: rest => if startsWithDigit rest then .error .malformed else skipAfterWhole rest
  | c :: rest =>
      if (digit? c).isSome then skipAfterWhole (skipDigits (c :: rest)) else .error .malformed

end WatchBitmap.Json.Number
