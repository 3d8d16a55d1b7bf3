import WatchBitmap.BitPacking
import WatchBitmap.Color
import WatchBitmap.Png.Filter
import WatchBitmap.Png.Layout

/-!
# From bytes to colors

* `Coloring` — the palette, and which color or which palette entries are transparent.
* `Coloring.ofPixel` — the color of a pixel's samples.
* `readPass?` — the colors of a grid of pixels, from the bytes of its filtered rows.
* `limitBytes` — how many bytes the rows of a picture take at most.
* `picture?` — the colors of a picture, row by row.
-/

namespace WatchBitmap.Png

/-- What colors depend on besides the samples. -/
structure Coloring where
  /-- Three bytes per entry. -/
  palette : List UInt8 := []
  /-- One alpha value per palette entry, or the samples of the color that is transparent. -/
  transparency : List UInt8 := []
deriving DecidableEq, Repr

namespace Coloring

/-- A sample as a channel value.  Few bits are spread out, sixteen are rounded. -/
def scale (depth sample : Nat) : UInt8 :=
  if depth = 16 then UInt8.ofNat ((sample + 128) / 257)
  else UInt8.ofNat (sample * (255 / ((1 <<< depth) - 1)))

/-- Stored samples of a color.  Each takes two bytes, of which the lower one counts if a sample is
no longer than that. -/
def keySamples (depth : Nat) : List UInt8 → List Nat
  | high :: low :: rest =>
      (if depth = 16 then high.toNat * 256 + low.toNat else low.toNat) :: keySamples depth rest
  | _ => []

/-- The samples of the transparent color, if there is one.  What is stored behind short samples
does not matter; samples of sixteen bits with something behind them are no color. -/
def key? (c : Coloring) (depth channels : Nat) : Option (List Nat) :=
  if depth = 16 ∧ c.transparency.length ≠ 2 * channels then none
  else some (keySamples depth (c.transparency.take (2 * channels)))

/-- The alpha value of a pixel without one: zero for the transparent color. -/
def keyAlpha (c : Coloring) (depth : Nat) (samples : List Nat) : UInt8 :=
  if c.key? depth samples.length = some samples then 0 else 255

/-- The alpha values of palette entries.  If there are more of them than entries, none counts. -/
def alphas (c : Coloring) : List UInt8 :=
  if c.transparency.length ≤ c.palette.length / 3 then c.transparency else []

/-- The color of a palette entry; black if there is none. -/
def entry (c : Coloring) (index : Nat) : Color :=
  match c.palette.drop (3 * index) with
  | r :: g :: b :: _ => ⟨r, g, b, c.alphas.getD index 255⟩
  | _ => Color.black

/-- **The color of a pixel.** -/
def ofPixel (c : Coloring) (type : ColorType) (depth : Nat) (samples : List Nat) : Color :=
  match type, samples with
  | .gray, [v] => ⟨scale depth v, scale depth v, scale depth v, c.keyAlpha depth samples⟩
  | .rgb, [r, g, b] => ⟨scale depth r, scale depth g, scale depth b, c.keyAlpha depth samples⟩
  | .indexed, [i] => c.entry i
  | .grayAlpha, [v, a] => ⟨scale depth v, scale depth v, scale depth v, scale depth a⟩
  | .rgba, [r, g, b, a] => ⟨scale depth r, scale depth g, scale depth b, scale depth a⟩
  | _, _ => Color.black

end Coloring

/-- Numbers of two bytes each, the higher one first. -/
def bigShorts : List UInt8 → List Nat
  | high :: low :: rest => (high.toNat * 256 + low.toNat) :: bigShorts rest
  | _ => []

/-- So many samples of a row. -/
def readSamples? (depth count : Nat) (row : List UInt8) : Option (List Nat) :=
  if depth = 16 then some ((bigShorts row).take count)
  else (BitPacking.unpackRow? depth count row).map fun values => values.map UInt8.toNat

/-- Samples, so many at a time. -/
def groupSamples (channels : Nat) : (pixels : Nat) → List Nat → List (List Nat)
  | 0, _ => []
  | pixels + 1, samples =>
      samples.take channels :: groupSamples channels pixels (samples.drop channels)

/-- The colors of a row. -/
def readRow? (l : Layout) (c : Coloring) (pixels : Nat) (row : List UInt8) : Option (List Color) :=
  (readSamples? l.depth (pixels * l.colorType.channels) row).map fun samples =>
    (groupSamples l.colorType.channels pixels samples).map (c.ofPixel l.colorType l.depth)

/-- The colors of so many rows, from the bytes of the row above them. -/
def readRows? (l : Layout) (c : Coloring) (pixels : Nat) :
    (rows : Nat) → (above : List UInt8) → List UInt8 → Option (List (List Color) × List UInt8)
  | 0, _, bytes => some ([], bytes)
  | _ + 1, _, [] => none
  | rows + 1, above, kind :: bytes => do
      let stored := bytes.take (l.rowBytes pixels)
      if stored.length < l.rowBytes pixels then none
      let row ← Filter.restore? l.filterReach kind above stored
      let colors ← readRow? l c pixels row
      let (rest, bytes) ← readRows? l c pixels rows row (bytes.drop (l.rowBytes pixels))
      return (colors :: rest, bytes)

/-- **The colors of a grid of pixels.**  A grid without pixels takes no bytes. -/
def readPass? (l : Layout) (c : Coloring) (p : Pass) (bytes : List UInt8) :
    Option (Array Color × List UInt8) :=
  if p.columns l = 0 then
    some (#[], bytes)
  else do
    let above := List.replicate (l.rowBytes (p.columns l)) 0
    let (rows, bytes) ← readRows? l c (p.columns l) (p.rows l) above bytes
    return (rows.flatten.toArray, bytes)

/-- The colors of grids that are stored one after the other. -/
def readPasses? (l : Layout) (c : Coloring) :
    List Pass → List UInt8 → Option (List (Pass × Array Color))
  | [], _ => some []
  | p :: ps, bytes => do
      let (colors, bytes) ← readPass? l c p bytes
      let rest ← readPasses? l c ps bytes
      return (p, colors) :: rest

/-- The color at a position, from the grid that has it. -/
def colorAt (l : Layout) (grids : List (Pass × Array Color)) (x y : Nat) : Color :=
  match grids.find? fun grid => grid.1.contains x y with
  | some (p, colors) => colors.getD (p.place l x y) Color.black
  | none => Color.black

/-- The bytes that a grid's rows take, and one for the filter of each. -/
def rowsBytes (l : Layout) (p : Pass) : Nat :=
  p.rows l * (1 + l.rowBytes (p.columns l))

/-- The bytes that a grid of pixels takes. -/
def passBytes (l : Layout) (p : Pass) : Nat :=
  if p.columns l = 0 then 0 else rowsBytes l p

/-- The bytes that all grids take. -/
def totalBytes (l : Layout) : Nat :=
  l.passes.foldr (fun p bytes => passBytes l p + bytes) 0

/-- The bytes that are read at most: rows without pixels are counted too, by their filters. -/
def limitBytes (l : Layout) : Nat :=
  l.passes.foldr (fun p bytes => rowsBytes l p + bytes) 0

/-- Whether the first row of a picture is there.  The first grid has its first pixel. -/
def hasFirstRow (l : Layout) (c : Coloring) (bytes : List UInt8) : Bool :=
  match l.passes with
  | [] => false
  | p :: _ =>
      l.rowBytes (p.columns l) < bytes.length
        && (readRows? l c (p.columns l) 1 (List.replicate (l.rowBytes (p.columns l)) 0) bytes).isSome

/-- **The colors of a picture**, row by row.  It is settled first whether there are enough bytes,
so what is built is bounded by them.  Bytes that are left over do not matter. -/
def picture? (l : Layout) (c : Coloring) (bytes : List UInt8) : Option (List Color) := do
  if bytes.length < totalBytes l then none
  let grids ← readPasses? l c l.passes bytes
  return (List.range l.height).flatMap fun y =>
    (List.range l.width).map fun x => colorAt l grids x y

end WatchBitmap.Png
