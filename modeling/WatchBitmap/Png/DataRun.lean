import WatchBitmap.Deflate.Zlib
import WatchBitmap.Png.Preamble

/-!
# The data of a picture

The compressed data of a picture is in several chunks of one type in a row.  Each is read as it
comes, so what has been read before a fault may be all that is wanted.

* `DataRun` — the data of such chunks, and whether they are followed by another one.
* `DataRun.read` — the chunks at the front of some bytes.
* `DataRun.inflate?` — what their data stands for.
-/

namespace WatchBitmap.Png

/-- The data of chunks in a row. -/
structure DataRun where
  /-- The data of each chunk, up to the first fault.  Of a chunk that is cut off what is there
  counts. -/
  parts : List (List UInt8)
  /-- Whether there is no fault and the opening of a chunk of another type follows. -/
  closed : Bool
deriving DecidableEq, Repr

namespace DataRun

/-- Chunks that end with a fault in front of the next data. -/
def broken : DataRun := ⟨[], false⟩

/-- A chunk's data in front of more. -/
def cons (part : List UInt8) (run : DataRun) : DataRun :=
  ⟨part :: run.parts, run.closed⟩

/-- The compressed data in a chunk.  That of a frame comes behind the chunk's number. -/
def payload? (type : ChunkType) (sequence : Nat) (data : List UInt8) : Option (List UInt8) :=
  if type = .frameData then
    match data with
    | a :: b :: c :: d :: rest => if bigWord a b c d = sequence then some rest else none
    | _ => none
  else
    some data

/-- Whether more may follow a chunk.  Damage counts only in chunks that must not be passed over, and
those of an animation may be. -/
def mayContinue (chunk : Chunk) : Bool :=
  chunk.intact || chunk.type == .frameData

/-- The chunks of a type, at most `fuel` of them. -/
def readChunks (type : ChunkType) : (fuel sequence : Nat) → List UInt8 → DataRun
  | 0, _, _ => broken
  | fuel + 1, sequence, bytes =>
      match Chunk.readOpening? bytes with
      | none => broken
      | some (opening, rest) =>
          if opening.type ≠ type then
            ⟨[], true⟩
          else
            match payload? type sequence (rest.take opening.length) with
            | none => broken
            | some part =>
                match Chunk.read? bytes with
                | none => cons part broken
                | some (chunk, rest) =>
                    cons part
                      (if mayContinue chunk then readChunks type fuel (sequence + 1) rest
                        else broken)

/-- **The chunks at the front of some bytes** that have the type of the first one.  Those of an
animation are counted from `sequence` on.  Every chunk takes at least one byte. -/
def read (sequence : Nat) (bytes : List UInt8) : DataRun :=
  match Chunk.readOpening? bytes with
  | none => broken
  | some (opening, _) => readChunks opening.type bytes.length sequence bytes

/-- **What the data stands for**, up to the bytes that a layout's rows take. -/
def inflate? (run : DataRun) (l : Layout) : Option (List UInt8) :=
  Deflate.Zlib.inflateParts? (limitBytes l) run.parts

end DataRun

end WatchBitmap.Png
