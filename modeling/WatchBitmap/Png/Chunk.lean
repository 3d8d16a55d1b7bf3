import WatchBitmap.Png.Checksum

/-!
# Chunks

Behind its signature a PNG file is a sequence of chunks: the length of the data, four letters for
the type, the data, and a checksum.

* `Chunk` — a chunk, and whether its checksum is right.
* `Chunk.read?` — the chunk at the front of some bytes.
-/

namespace WatchBitmap.Png

/-- The first eight bytes of every file. -/
def signature : List UInt8 :=
  [0x89, 0x50, 0x4e, 0x47, 0x0d, 0x0a, 0x1a, 0x0a]

/-- A number of four bytes, the highest first. -/
def bigWord (a b c d : UInt8) : Nat :=
  ((a.toNat * 256 + b.toNat) * 256 + c.toNat) * 256 + d.toNat

/-- Numbers of four bytes each. -/
def bigWords : List UInt8 → List Nat
  | a :: b :: c :: d :: rest => bigWord a b c d :: bigWords rest
  | _ => []

/-- The types that matter. -/
inductive ChunkType where
  | header
  | palette
  | transparency
  /-- The color behind the picture. -/
  | background
  /-- How colors are to be understood. -/
  | codePoints
  /-- How many frames an animation has. -/
  | animationControl
  /-- Where on the picture a frame of an animation is. -/
  | frameControl
  | data
  /-- The data of a frame. -/
  | frameData
  | trailer
  /-- Any other type that may be passed over. -/
  | ancillary
  /-- Any other type that may not. -/
  | critical
deriving DecidableEq, Repr

/-- The type of four letters.  A small first letter marks a chunk that may be passed over. -/
def ChunkType.ofLetters (a b c d : UInt8) : ChunkType :=
  if [a, b, c, d] = [0x49, 0x48, 0x44, 0x52] then header
  else if [a, b, c, d] = [0x50, 0x4c, 0x54, 0x45] then palette
  else if [a, b, c, d] = [0x74, 0x52, 0x4e, 0x53] then transparency
  else if [a, b, c, d] = [0x62, 0x4b, 0x47, 0x44] then background
  else if [a, b, c, d] = [0x63, 0x49, 0x43, 0x50] then codePoints
  else if [a, b, c, d] = [0x61, 0x63, 0x54, 0x4c] then animationControl
  else if [a, b, c, d] = [0x66, 0x63, 0x54, 0x4c] then frameControl
  else if [a, b, c, d] = [0x49, 0x44, 0x41, 0x54] then data
  else if [a, b, c, d] = [0x66, 0x64, 0x41, 0x54] then frameData
  else if [a, b, c, d] = [0x49, 0x45, 0x4e, 0x44] then trailer
  else if a.toNat.testBit 5 then ancillary
  else critical

/-- A chunk. -/
structure Chunk where
  type : ChunkType
  data : List UInt8
  /-- Whether the checksum is that of type and data. -/
  intact : Bool
deriving DecidableEq, Repr

namespace Chunk

/-- The length and the letters in front of a chunk's data. -/
structure Opening where
  length : Nat
  letters : List UInt8
  type : ChunkType
deriving DecidableEq, Repr

/-- The opening of a chunk, and what follows it. -/
def readOpening? : List UInt8 → Option (Opening × List UInt8)
  | l₀ :: l₁ :: l₂ :: l₃ :: a :: b :: c :: d :: rest =>
      some (⟨bigWord l₀ l₁ l₂ l₃, [a, b, c, d], .ofLetters a b c d⟩, rest)
  | _ => none

/-- **The chunk at the front of some bytes**, if all of it is there. -/
def read? (bytes : List UInt8) : Option (Chunk × List UInt8) := do
  let (opening, rest) ← readOpening? bytes
  let data := rest.take opening.length
  if data.length < opening.length then none
  match rest.drop opening.length with
  | s₀ :: s₁ :: s₂ :: s₃ :: rest =>
      let intact := bigWord s₀ s₁ s₂ s₃ == (checksum (opening.letters ++ data)).toNat
      return (⟨opening.type, data, intact⟩, rest)
  | _ => none

end Chunk

end WatchBitmap.Png
