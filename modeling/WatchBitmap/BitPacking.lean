/-!
# Packing values of one, two, four or eight bits into bytes

The values of a row fill its bytes from the most significant bit down, and a row that ends inside
a byte leaves the rest of it zero.  A byte is thus a numeral whose digits are the values: a value
in slot `k` lies `slotShift bits k` bits up.

* `packRow`, `writeRow` — the bytes of a row of values.
* `unpackRow?` — the values of a packed row, if it is long enough.
-/

namespace WatchBitmap.BitPacking

/-- How many values of `bits` bits share a byte. -/
def slotsPerByte (bits : Nat) : Nat :=
  8 / bits

/-- How far above the lowest bit of its byte the value in a slot lies. -/
def slotShift (bits slot : Nat) : Nat :=
  8 - bits * (slot + 1)

/-- The low bits of a value, moved to their slot. -/
def place (bits slot : Nat) (value : UInt8) : Nat :=
  (value.toNat % (1 <<< bits)) <<< slotShift bits slot

/-- **Packing**, with a byte under way whose slots before `slot` are filled. -/
def packFrom (bits byte slot : Nat) : List UInt8 → List UInt8
  | [] => if slot = 0 then [] else [UInt8.ofNat byte]
  | value :: values =>
      if slot + 1 < slotsPerByte bits then
        packFrom bits (byte + place bits slot value) (slot + 1) values
      else
        UInt8.ofNat (byte + place bits slot value) :: packFrom bits 0 0 values

/-- The bytes of a row of values, of which only the low `bits` bits count. -/
def packRow (bits : Nat) (values : List UInt8) : List UInt8 :=
  packFrom bits 0 0 values

/-- Writes a packed row behind what is there. -/
def writeRow (bits : Nat) (out values : List UInt8) : List UInt8 :=
  out ++ packRow bits values

/-- The value in a slot of a byte. -/
def slotValue (bits slot : Nat) (byte : UInt8) : UInt8 :=
  UInt8.ofNat ((byte.toNat >>> slotShift bits slot) % (1 <<< bits))

/-- All values of a byte. -/
def unpackByte (bits : Nat) (byte : UInt8) : List UInt8 :=
  (List.range (slotsPerByte bits)).map fun slot => slotValue bits slot byte

/-- **Unpacking.**  The first `width` values of a packed row, or `none` if it holds fewer. -/
def unpackRow? (bits width : Nat) (row : List UInt8) : Option (List UInt8) :=
  if width ≤ row.length * slotsPerByte bits then
    some ((row.flatMap (unpackByte bits)).take width)
  else
    none

end WatchBitmap.BitPacking
