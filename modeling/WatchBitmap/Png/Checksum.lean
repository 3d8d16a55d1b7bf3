/-!
# The checksum of a chunk

The remainder of the chunk's type and data by a polynomial over bits, the lowest bit of each byte
first, started from ones and complemented at the end.

* `Png.checksum` — the checksum of some bytes.
-/

namespace WatchBitmap.Png

/-- The polynomial, its highest power left out and the others in reversed order. -/
def polynomial : UInt32 := 0xedb88320

/-- Divides out one bit. -/
def divideBit (rest : UInt32) : UInt32 :=
  if rest &&& 1 = 1 then (rest >>> 1) ^^^ polynomial else rest >>> 1

/-- Divides out so many bits. -/
def divideBits : (count : Nat) → UInt32 → UInt32
  | 0, rest => rest
  | count + 1, rest => divideBits count (divideBit rest)

/-- The checksum of some bytes. -/
def checksum (bytes : List UInt8) : UInt32 :=
  ~~~(bytes.foldl (fun rest b => divideBits 8 (rest ^^^ b.toUInt32)) 0xffffffff)

end WatchBitmap.Png
