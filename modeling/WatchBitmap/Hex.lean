/-!
# Hexadecimal text of bytes

* `Hex.ofByte` — the two lower-case digits of a byte.
* `Hex.ofBytes` — those of a string of bytes, end to end.
-/

namespace WatchBitmap.Hex

/-- The lower-case digit of a value below sixteen. -/
def digit (n : Nat) : Char :=
  if n < 10 then Char.ofNat (48 + n) else Char.ofNat (87 + n)

/-- The two digits of a byte, the high one first. -/
def ofByte (b : UInt8) : String :=
  String.ofList [digit (b.toNat / 16), digit (b.toNat % 16)]

/-- The digits of a string of bytes. -/
def ofBytes (bs : List UInt8) : String :=
  String.join (bs.map ofByte)

/-- The value of a hexadecimal digit of either case. -/
def value? (c : Char) : Option Nat :=
  if '0' ≤ c ∧ c ≤ '9' then some (c.toNat - 48)
  else if 'a' ≤ c ∧ c ≤ 'f' then some (c.toNat - 87)
  else if 'A' ≤ c ∧ c ≤ 'F' then some (c.toNat - 55)
  else none

end WatchBitmap.Hex
