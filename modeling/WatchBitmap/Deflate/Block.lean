import WatchBitmap.Deflate.Codes

/-!
# Blocks of compressed data

A block holds bytes as they are, or symbols of its two codes.  Only so many bytes are wanted.  What
lies behind the block that completes them is not needed, so data that ends there too soon is right;
but the openings of blocks that are there are still read, and a fault in them counts.

* `Progress` — how far a block, or a sequence of them, has come.
* `inflateSymbols` — what the symbols of a block stand for, up to its end.
* `inflateBlock` — what a block stands for.
* `inflate` — what a sequence of blocks stands for.
-/

namespace WatchBitmap.Deflate

/-- How far a block has come. -/
inductive Progress where
  /-- All bytes that are wanted are there, and the block is left before its end. -/
  | filled (out : Array UInt8)
  /-- The block has ended. -/
  | ended (out : Array UInt8) (rest : Bits)

/-! ## Symbols -/

/-- Copies bytes from a distance back, one after the other, so that a copy may reach into
itself. -/
def copyBack (distance : Nat) : (count : Nat) → Array UInt8 → Array UInt8
  | 0, out => out
  | count + 1, out => copyBack distance count (out.push (out.getD (out.size - distance) 0))

/-- The copy that a length symbol introduces: how many bytes, and from how far back. -/
def readCopy (codes : Codes) (symbol : Nat) (bits : Bits) : Except Fault ((Nat × Nat) × Bits) := do
  let (count, bits) ← readExtended lengthTable (symbol - 257) bits
  let (word, bits) ← codes.distance.read bits
  let (distance, bits) ← readExtended distanceTable word.symbol bits
  return ((count, distance), bits)

/-- So many bits hold a pair of literals that are read together. -/
def pairBits : Nat := 12

/-- Whether a codeword is a literal that is read together with another in front of it. -/
def isPair (first second : Huffman.Word) : Bool :=
  second.symbol < endOfBlock && 2 ≤ second.length && first.length + second.length ≤ pairBits

/-- **Literals in pairs.**  A literal is read together with the next one if both have at most
`pairBits` bits; then none of them is there before all of these bits are.  Where the data ends,
zeros stand for the bits that are still to come.  The bits of the first are read already. -/
def Codes.readLiterals (codes : Codes) (first : Huffman.Word) (bits : Bits) :
    Except Fault (List UInt8 × Bits) :=
  match codes.literal.peek bits with
  | .error _ => .ok ([UInt8.ofNat first.symbol], bits)
  | .ok (second, rest) =>
      if isPair first second then
        if bits.has second.length then
          .ok ([UInt8.ofNat first.symbol, UInt8.ofNat second.symbol], rest)
        else
          .error .exhausted
      else
        .ok ([UInt8.ofNat first.symbol], bits)

/-- So many bits have to be there for the end of a block to be noticed behind the last byte that is
wanted. -/
def endBits : Nat := 15

/-- What follows the last byte that is wanted: the end of its block, if that is plain to see. -/
def Codes.leave (codes : Codes) (out : Array UInt8) (bits : Bits) : Progress :=
  match codes.literal.read bits with
  | .ok (word, rest) =>
      if word.symbol = endOfBlock ∧ bits.has endBits then .ended out rest else .filled out
  | .error _ => .filled out

/-- **The symbols of a block**, up to its end or to the last of `limit` bytes; at most `fuel` of
them. -/
def inflateSymbols (codes : Codes) (limit : Nat) :
    (fuel : Nat) → Array UInt8 → Bits → Except Fault Progress
  | 0, _, _ => .error .exhausted
  | fuel + 1, out, bits =>
      if limit ≤ out.size then
        .ok (codes.leave out bits)
      else
        match codes.literal.read bits with
        | .error fault => .error fault
        | .ok (word, rest) =>
            let room := limit - out.size
            if word.symbol < endOfBlock then
              match codes.readLiterals word rest with
              | .error fault => .error fault
              | .ok (bytes, rest) =>
                  if room < bytes.length then .ok (.filled (out ++ bytes.take room))
                  else inflateSymbols codes limit fuel (out ++ bytes) rest
            else if word.symbol = endOfBlock then
              .ok (.ended out rest)
            else
              match readCopy codes word.symbol rest with
              | .error fault => .error fault
              | .ok ((count, distance), rest) =>
                  if out.size < distance then .error .malformed
                  else if room < count then .ok (.filled (copyBack distance room out))
                  else inflateSymbols codes limit fuel (copyBack distance count out) rest

/-! ## Blocks -/

/-- A block of bytes as they are: their number, its complement, and they themselves. -/
def inflateStored (limit : Nat) (out : Array UInt8) (bits : Bits) : Except Fault Progress := do
  let (count, bits) ← bits.align.read 16
  let (complement, bits) ← bits.read 16
  if count + complement ≠ 0xffff then throw .malformed
  let room := limit - out.size
  let (bytes, bits) ← bits.takeBytes (min count room)
  return if room < count then .filled (out ++ bytes) else .ended (out ++ bytes) bits

/-- So many bits have to be there for a block to be begun; no block has fewer. -/
def openingBits : Nat := 10

/-- **One block** of at most `fuel` symbols, behind what is there: whether it is marked as the last,
and how far it has come. -/
def inflateBlock (limit fuel : Nat) (out : Array UInt8) (bits : Bits) :
    Except Fault (Bool × Progress) := do
  if !bits.has openingBits then throw .exhausted
  let (last, bits) ← bits.read 1
  let (kind, bits) ← bits.read 2
  let progress ←
    match kind with
    | 0 => inflateStored limit out bits
    | 1 => inflateSymbols .fixed limit fuel out bits
    | 2 => do
        let (codes, bits) ← Codes.read bits
        inflateSymbols codes limit fuel out bits
    | _ => .error .malformed
  return (last == 1, progress)

/-- Blocks up to the one that is marked as the last, at most `fuel` of them and of their symbols.
Where all wanted bytes are there, data may end too soon. -/
def inflateBlocks (limit : Nat) : (fuel : Nat) → Array UInt8 → Bits → Except Fault Progress
  | 0, _, _ => .error .exhausted
  | fuel + 1, out, bits =>
      match inflateBlock limit (fuel + 1) out bits with
      | .ok (false, .ended out rest) => inflateBlocks limit fuel out rest
      | .ok (_, progress) => .ok progress
      | .error .exhausted => if limit ≤ out.size then .ok (.filled out) else .error .exhausted
      | .error .malformed => .error .malformed

/-- **What compressed data stands for**, up to `limit` bytes, and the bits that follow it.  Every
block and every symbol takes at least one bit. -/
def inflate (limit : Nat) (bits : Bits) : Except Fault Progress :=
  inflateBlocks limit (bits.size + 1) #[] bits

end WatchBitmap.Deflate
