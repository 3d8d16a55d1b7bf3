/-!
# Bits of a byte string

Compressed data is read bit by bit, from the lowest bit of each byte up.

* `Fault` — the two ways in which compressed data can be wrong.
* `Bits` — bits that are still to be read.
* `Bits.read` — a number of so many bits, its lowest bit first.
* `Bits.takeBytes` — whole bytes, behind the byte that has been begun.
* `Bits.has` — whether so many bits are there.
-/

namespace WatchBitmap.Deflate

/-- How compressed data is wrong. -/
inductive Fault where
  /-- It ends too soon; more of it might be right. -/
  | exhausted
  /-- It is wrong whatever follows it. -/
  | malformed
deriving DecidableEq, Repr

/-- Bits that are still to be read. -/
structure Bits where
  /-- Those of the byte that has been begun. -/
  pending : List Bool
  /-- The bytes behind it. -/
  bytes : List UInt8
deriving DecidableEq, Repr

namespace Bits

/-- The bits of some bytes. -/
def ofBytes (bytes : List UInt8) : Bits :=
  ⟨[], bytes⟩

/-- How many bits there are. -/
def size (bits : Bits) : Nat :=
  bits.pending.length + 8 * bits.bytes.length

/-- Whether there are so many bits.  No more bytes are looked at than are asked for. -/
def has (count : Nat) (bits : Bits) : Bool :=
  count ≤ bits.pending.length + 8 * (bits.bytes.take count).length

/-- The next bit. -/
def next? : Bits → Option (Bool × Bits)
  | ⟨b :: pending, bytes⟩ => some (b, ⟨pending, bytes⟩)
  | ⟨[], byte :: bytes⟩ =>
      some (byte.toNat.testBit 0,
        ⟨(List.range 7).map fun i => byte.toNat.testBit (i + 1), bytes⟩)
  | ⟨[], []⟩ => none

/-- The weight of a bit. -/
def weight (b : Bool) : Nat :=
  if b then 1 else 0

/-- A number of `count` bits, the lowest first. -/
def read : (count : Nat) → Bits → Except Fault (Nat × Bits)
  | 0, bits => .ok (0, bits)
  | count + 1, bits =>
      match bits.next? with
      | none => .error .exhausted
      | some (b, bits) => (read count bits).map fun (n, bits) => (weight b + 2 * n, bits)

/-- Passes over what is left of a byte. -/
def align (bits : Bits) : Bits :=
  ⟨[], bits.bytes⟩

/-- So many whole bytes, behind the byte that has been begun. -/
def takeBytes (count : Nat) (bits : Bits) : Except Fault (List UInt8 × Bits) :=
  let taken := bits.bytes.take count
  if taken.length < count then .error .exhausted else .ok (taken, ⟨[], bits.bytes.drop count⟩)

end Bits

end WatchBitmap.Deflate
