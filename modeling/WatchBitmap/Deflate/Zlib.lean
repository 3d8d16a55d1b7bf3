import WatchBitmap.Deflate.Block

/-!
# Compressed data with its frame

Two bytes come before the compressed data and four after it.  The ones before it say how it is
compressed; the ones after it have to be there unless all bytes that are wanted are there already,
and what is behind them does not matter.

* `Zlib.inflate` — what framed data stands for.
* `Zlib.inflateParts?` — what framed data in several parts stands for.
-/

namespace WatchBitmap.Deflate.Zlib

/-- The bits of the four bytes at the end. -/
def checkBits : Nat := 32

/-- The two bytes in front: the only method there is, a window of at most `2 ^ 15` bytes, a
remainder of zero by 31, and no dictionary. -/
def isHeader (method flags : UInt8) : Bool :=
  method.toNat % 16 == 8 && method.toNat / 16 ≤ 7
    && (method.toNat * 256 + flags.toNat) % 31 == 0 && !flags.toNat.testBit 5

/-- The bytes that blocks stand for, if the end of the frame is there or is not needed. -/
def finish (limit : Nat) : Progress → Except Fault (List UInt8)
  | .filled out => .ok out.toList
  | .ended out rest =>
      if limit ≤ out.size ∨ rest.align.has checkBits then .ok out.toList
      else .error .exhausted

/-- **What framed data stands for**, up to `limit` bytes. -/
def inflate (limit : Nat) : List UInt8 → Except Fault (List UInt8)
  | method :: flags :: data =>
      if isHeader method flags then (Deflate.inflate limit (Bits.ofBytes data)).bind (finish limit)
      else .error .malformed
  | _ => .error .exhausted

/-- What the first `count` parts stand for.  Each part is read as soon as it is there, and nothing
is read once the data is complete; so a fault does not count if the parts before it are enough. -/
def inflateFirst? (limit : Nat) (parts : List (List UInt8)) : (count : Nat) → Option (List UInt8)
  | 0 => none
  | count + 1 =>
      match inflate limit (parts.take (count + 1)).flatten with
      | .ok bytes => some bytes
      | .error .exhausted => none
      | .error .malformed => inflateFirst? limit parts count

/-- **What framed data in several parts stands for**, up to `limit` bytes. -/
def inflateParts? (limit : Nat) (parts : List (List UInt8)) : Option (List UInt8) :=
  inflateFirst? limit parts parts.length

end WatchBitmap.Deflate.Zlib
