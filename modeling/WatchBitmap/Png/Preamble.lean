import WatchBitmap.Png.Pixels

/-!
# What comes before the data

The first chunk declares the layout.  Chunks up to the data may add a palette and transparency, and
say where the first frame of an animation is.

* `FrameControl` — where on the picture a frame is.
* `Preamble` — what the chunks before the data say.
* `Preamble.add?` — what a chunk adds.
* `Preamble.read?` — the preamble of a file, and what follows it.
-/

namespace WatchBitmap.Png

/-- Where on the picture a frame is, and how it is put there.  How long it is shown does not
matter. -/
structure FrameControl where
  /-- Chunks of an animation are counted. -/
  sequence : Nat
  width : Nat
  height : Nat
  left : Nat
  top : Nat
  disposal : UInt8
  blending : UInt8
deriving DecidableEq, Repr

namespace FrameControl

/-- The fields of a frame control chunk.  Four bytes of time come before the last two. -/
def read? (bytes : List UInt8) : Option FrameControl :=
  match bigWords (bytes.take 20), bytes.drop 24 with
  | [sequence, width, height, left, top], [disposal, blending] =>
      some ⟨sequence, width, height, left, top, disposal, blending⟩
  | _, _ => none

/-- Whether the frame is all of the picture and put there in a known way. -/
def covers (f : FrameControl) (l : Layout) : Bool :=
  f.width == l.width && f.height == l.height && f.left == 0 && f.top == 0
    && f.disposal ≤ 2 && f.blending ≤ 1

end FrameControl

/-- What comes before the data. -/
structure Preamble where
  layout : Layout
  /-- Three bytes per entry. -/
  palette : Option (List UInt8) := none
  /-- Alpha values, or the samples of the transparent color. -/
  transparency : Option (List UInt8) := none
  /-- How many frames the animation has. -/
  frames : Option Nat := none
  /-- The number of the last frame control chunk. -/
  frame : Option Nat := none
  /-- Whether it has been said how colors are to be understood. -/
  hasCodePoints : Bool := false
deriving DecidableEq, Repr

namespace Preamble

/-- What colors depend on besides the samples. -/
def coloring (p : Preamble) : Coloring :=
  ⟨p.palette.getD [], p.transparency.getD []⟩

/-- The number of the next chunk of an animation. -/
def nextSequence (p : Preamble) : Nat :=
  match p.frame with
  | none => 0
  | some sequence => sequence + 1

/-- Whether the palette ends inside of an entry, and there are indices into it. -/
def splitsEntry (p : Preamble) : Bool :=
  p.layout.colorType == .indexed && (p.palette.getD []).length % 3 != 0

/-! ## What a chunk adds -/

/-- A palette of at most 256 entries, of which there may be one. -/
def withPalette? (p : Preamble) (bytes : List UInt8) : Option Preamble :=
  if p.palette.isNone ∧ 3 ≤ bytes.length ∧ bytes.length ≤ 768 then
    some { p with palette := some bytes }
  else
    none

/-- Whether a transparency chunk of so many bytes fits.  One that lists alpha values has to come
after the palette. -/
def admitsTransparency (p : Preamble) (size : Nat) : Bool :=
  p.transparency.isNone && 1 ≤ size && size ≤ 256 &&
    match p.layout.colorType with
    | .gray => 2 ≤ size
    | .rgb => 6 ≤ size
    | .indexed => p.palette.isSome
    | .grayAlpha => false
    | .rgba => false

/-- A transparency chunk.  The first that fits counts, all others are passed over. -/
def withTransparency (p : Preamble) (bytes : List UInt8) : Preamble :=
  if p.admitsTransparency bytes.length then { p with transparency := some bytes } else p

/-- The color behind the picture does not matter.  But one of a legal size that is an index has to
come after the palette. -/
def withBackground? (p : Preamble) (bytes : List UInt8) : Option Preamble :=
  if p.layout.colorType = .indexed ∧ p.palette.isNone ∧ 1 ≤ bytes.length ∧ bytes.length ≤ 6 then
    none
  else
    some p

/-- How colors are to be understood does not matter either.  But the first such chunk before the
palette has to say that samples are those of colors, in one of two ranges. -/
def withCodePoints? (p : Preamble) (bytes : List UInt8) : Option Preamble :=
  match bytes with
  | [_, _, matrix, range] =>
      if p.hasCodePoints ∨ p.palette.isSome then some p
      else if matrix = 0 ∧ range ≤ 1 then some { p with hasCodePoints := true }
      else none
  | _ => some p

/-- An animation control chunk says how many frames there are, and how often they are shown. -/
def withAnimation (p : Preamble) (bytes : List UInt8) : Preamble :=
  if bytes.length = 8 then { p with frames := (bigWords bytes).head? } else p

/-- A frame before the data is the picture itself, so it has to cover it. -/
def withFrame? (p : Preamble) (f : FrameControl) : Option Preamble :=
  if f.sequence = p.nextSequence ∧ f.covers p.layout then some { p with frame := some f.sequence }
  else none

/-- A frame control chunk.  Only its contents may be damaged, not its length. -/
def withFrameControl? (p : Preamble) (chunk : Chunk) : Option Preamble := do
  let frame ← FrameControl.read? chunk.data
  if chunk.intact then p.withFrame? frame else return p

/-- **What a chunk before the data adds.**  A damaged chunk that may be passed over is, any other is
a fault. -/
def add? (p : Preamble) (chunk : Chunk) : Option Preamble :=
  match chunk.type with
  | .ancillary => some p
  | .transparency => some (if chunk.intact then p.withTransparency chunk.data else p)
  | .background => if chunk.intact then p.withBackground? chunk.data else some p
  | .codePoints => if chunk.intact then p.withCodePoints? chunk.data else some p
  | .animationControl => some (if chunk.intact then p.withAnimation chunk.data else p)
  | .frameControl => p.withFrameControl? chunk
  | .palette => if chunk.intact then p.withPalette? chunk.data else none
  | _ => none

/-! ## Reading -/

/-- Whether the picture is a frame of an animation that has none. -/
def lacksFrames (p : Preamble) : Bool :=
  p.frame.isSome && p.frames == some 0

/-- Whether data of a type may begin: the data of a frame once there is a frame, and indices once
there is a palette. -/
def admitsData (p : Preamble) (type : ChunkType) : Bool :=
  (type == .data || p.frame.isSome) && (p.layout.colorType != .indexed || p.palette.isSome)
    && !p.lacksFrames

/-- The chunks in front of the data, at most `fuel` of them, and the bytes from the first data
chunk on. -/
def readChunks? : (fuel : Nat) → Preamble → List UInt8 → Option (Preamble × List UInt8)
  | 0, _, _ => none
  | fuel + 1, p, bytes => do
      let (opening, _) ← Chunk.readOpening? bytes
      if opening.type = .data ∨ opening.type = .frameData then
        if p.admitsData opening.type then return (p, bytes) else none
      else
        let (chunk, rest) ← Chunk.read? bytes
        let p ← p.add? chunk
        readChunks? fuel p rest

/-- The layout that the first chunk declares, and what follows that chunk. -/
def readLayout? (bytes : List UInt8) : Option (Layout × List UInt8) := do
  let (chunk, rest) ← Chunk.read? bytes
  if chunk.type = .header ∧ chunk.intact then
    let layout ← Layout.read? chunk.data
    return (layout, rest)
  else
    none

/-- **The preamble of a file**, and the bytes from the first data chunk on.  Every chunk takes at
least one byte. -/
def read? (bytes : List UInt8) : Option (Preamble × List UInt8) := do
  let (layout, rest) ← readLayout? bytes
  readChunks? rest.length ⟨layout, none, none, none, none, false⟩ rest

/-! ## Bounds -/

/-- The channels of a pixel once indices are replaced by colors and a transparent color by an alpha
value. -/
def expandedChannels (p : Preamble) : Nat :=
  (match p.layout.colorType with
    | .indexed => 3
    | type => type.channels) + if p.transparency.isSome then 1 else 0

/-- The bytes of the picture once it is expanded. -/
def expandedBytes (p : Preamble) : Nat :=
  p.layout.width * p.layout.height * p.expandedChannels * if p.layout.depth = 16 then 2 else 1

/-- The largest picture. -/
def maxExpandedBytes : Nat := 0x20000000

/-- Whether the picture is too large to be decoded. -/
def isTooLarge (p : Preamble) : Bool :=
  maxExpandedBytes < p.expandedBytes

end Preamble

end WatchBitmap.Png
