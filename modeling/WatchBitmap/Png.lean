import WatchBitmap.Decoding
import WatchBitmap.PixelBuffer
import WatchBitmap.Png.DataRun

/-!
# Decoding PNG files

* `Raster` — a decoded picture with all channels.
* `Png.Fault` — what keeps a file from having one.
* `Png.ofChunks` — the picture of a file's chunks.
* `Png.decode` — the picture in the form that is asked for.  The form does not decide whether
  there is one.
-/

namespace WatchBitmap

/-- A picture with one color for every pixel, row by row. -/
structure Raster where
  width : UInt32
  height : UInt32
  colors : List Color
  length_eq : colors.length = width.toNat * height.toNat

namespace Raster

/-- The pixels in the form that is asked for. -/
def data (r : Raster) : PixelMode → PixelData
  | .rgba => .rgba r.colors
  | .mono => .mono (r.colors.map Color.isLit)

theorem size_data (r : Raster) (mode : PixelMode) :
    (r.data mode).size = r.width.toNat * r.height.toNat := by
  cases mode <;> simp [data, PixelData.size, r.length_eq]

/-- **The picture in the form that is asked for.** -/
def toBuffer (r : Raster) (mode : PixelMode) : PixelBuffer :=
  ⟨r.width, r.height, r.data mode, r.size_data mode, by cases mode <;> rfl⟩

end Raster

namespace Png

/-- The picture of a layout's dimensions. -/
def rasterOf? (l : Layout) (colors : List Color) : Option Raster :=
  let width := UInt32.ofNat l.width
  let height := UInt32.ofNat l.height
  if h : colors.length = width.toNat * height.toNat then some ⟨width, height, colors, h⟩ else none

/-- The picture of some bytes, of which there may be more than it takes. -/
def raster? (p : Preamble) (bytes : List UInt8) : Option Raster := do
  let colors ← picture? p.layout p.coloring bytes
  rasterOf? p.layout colors

/-- The bytes that a file's data stands for, with what is said before it and whether the data is
closed. -/
def inflated? (chunks : List UInt8) : Option (Preamble × List UInt8 × Bool) := do
  let (preamble, rest) ← Preamble.read? chunks
  if preamble.isTooLarge then none
  let run := DataRun.read preamble.nextSequence rest
  let bytes ← run.inflate? preamble.layout
  return (preamble, bytes, run.closed)

/-- What keeps a file from having a picture. -/
inductive Fault where
  /-- The file breaks the rules of the format, or it ends too soon. -/
  | broken
  /-- The palette ends inside of an entry, and there are indices into it.  A decoder need not come
  back from such a file. -/
  | splitEntry
deriving DecidableEq, Repr

/-- **The picture of a file's chunks.**  That the palette ends inside of an entry is noticed at the
first row, before all else that is wrong behind that row. -/
def ofChunks (chunks : List UInt8) : Except Fault Raster :=
  match inflated? chunks with
  | none => .error .broken
  | some (preamble, bytes, closed) =>
      if preamble.splitsEntry && hasFirstRow preamble.layout preamble.coloring bytes then
        .error .splitEntry
      else
        match raster? preamble bytes with
        | some r => if closed then .ok r else .error .broken
        | none => .error .broken

/-- The picture of a file, of which the bytes behind the signature are looked at. -/
def raster (file : List UInt8) : Except Fault Raster :=
  ofChunks (file.drop signature.length)

/-- **Decoding PNG files.**  The words for a fault are the caller's.  A file that a decoder does not
come back from is no error of the file, so a caller who has to tell it from one chooses words for it
that stand for nothing else. -/
def decode (words : Fault → String) : Decoder := fun file mode =>
  if signature.isPrefixOf file then
    match raster file with
    | .ok r => .ok (r.toBuffer mode)
    | .error fault => .error (.corrupted (words fault))
  else
    .error .invalidFormat

end Png

end WatchBitmap
