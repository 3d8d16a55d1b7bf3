import WatchBitmap.Png.Chunk

/-!
# How pixels are stored

* `ColorType` — which samples a pixel has.
* `Layout` — dimensions, color type, bits per sample, and whether the pixels come in passes.
* `Layout.read?` — the layout that a header chunk declares.
* `Pass` — a grid of pixels that is stored by itself; `Layout.passes` are those of a picture.
-/

namespace WatchBitmap.Png

/-- Which samples a pixel has. -/
inductive ColorType where
  | gray
  | rgb
  | indexed
  | grayAlpha
  | rgba
deriving DecidableEq, Repr

namespace ColorType

/-- The color type of a given number. -/
def ofNumber? (n : UInt8) : Option ColorType :=
  match n.toNat with
  | 0 => some gray
  | 2 => some rgb
  | 3 => some indexed
  | 4 => some grayAlpha
  | 6 => some rgba
  | _ => none

/-- The samples of a pixel. -/
def channels : ColorType → Nat
  | gray => 1
  | rgb => 3
  | indexed => 1
  | grayAlpha => 2
  | rgba => 4

/-- How many bits a sample may have. -/
def depths : ColorType → List Nat
  | gray => [1, 2, 4, 8, 16]
  | rgb => [8, 16]
  | indexed => [1, 2, 4, 8]
  | grayAlpha => [8, 16]
  | rgba => [8, 16]

end ColorType

/-- How the pixels of a picture are stored. -/
structure Layout where
  width : Nat
  height : Nat
  colorType : ColorType
  /-- Bits per sample. -/
  depth : Nat
  interlaced : Bool
deriving DecidableEq, Repr

/-- The largest dimension. -/
def maxDimension : Nat := 0x7fffffff

/-- A grid of pixels: where it starts, and how far apart its pixels are. -/
structure Pass where
  left : Nat
  top : Nat
  across : Nat
  down : Nat
deriving DecidableEq, Repr

namespace Layout

/-- The layout of some fields, if they are legal.  There is one compression method and one set of
filters. -/
def ofFields? (width height : Nat) (depth colorType compression filters interlace : UInt8) :
    Option Layout := do
  let type ← ColorType.ofNumber? colorType
  if type.depths.contains depth.toNat && compression == 0 && filters == 0 && interlace ≤ 1
      && 0 < width && 0 < height && width ≤ maxDimension && height ≤ maxDimension then
    return ⟨width, height, type, depth.toNat, interlace == 1⟩
  else
    none

/-- **The layout that a header declares.** -/
def read? : List UInt8 → Option Layout
  | [w₀, w₁, w₂, w₃, h₀, h₁, h₂, h₃, depth, colorType, compression, filters, interlace] =>
      ofFields? (bigWord w₀ w₁ w₂ w₃) (bigWord h₀ h₁ h₂ h₃) depth colorType compression filters
        interlace
  | _ => none

/-- The bits of a pixel. -/
def pixelBits (l : Layout) : Nat :=
  l.colorType.channels * l.depth

/-- How many bytes back a row's filters look; at least one. -/
def filterReach (l : Layout) : Nat :=
  (l.pixelBits + 7) / 8

/-- The bytes of a row of so many pixels. -/
def rowBytes (l : Layout) (pixels : Nat) : Nat :=
  (pixels * l.pixelBits + 7) / 8

/-- The grids that are stored one after the other: all pixels at once, or seven grids that become
finer. -/
def passes (l : Layout) : List Pass :=
  if l.interlaced then
    [⟨0, 0, 8, 8⟩, ⟨4, 0, 8, 8⟩, ⟨0, 4, 4, 8⟩, ⟨2, 0, 4, 4⟩, ⟨0, 2, 2, 4⟩, ⟨1, 0, 2, 2⟩,
      ⟨0, 1, 1, 2⟩]
  else
    [⟨0, 0, 1, 1⟩]

end Layout

namespace Pass

/-- How many of `size` positions are on a grid line. -/
def count (start step size : Nat) : Nat :=
  (size - start + (step - 1)) / step

/-- The pixels of a grid's row. -/
def columns (p : Pass) (l : Layout) : Nat :=
  count p.left p.across l.width

/-- The rows of a grid. -/
def rows (p : Pass) (l : Layout) : Nat :=
  count p.top p.down l.height

/-- Whether the grid has a pixel at a position. -/
def contains (p : Pass) (x y : Nat) : Bool :=
  p.left ≤ x && (x - p.left) % p.across == 0 && p.top ≤ y && (y - p.top) % p.down == 0

/-- The place of a position's pixel among those of the grid. -/
def place (p : Pass) (l : Layout) (x y : Nat) : Nat :=
  (y - p.top) / p.down * p.columns l + (x - p.left) / p.across

end Pass

end WatchBitmap.Png
