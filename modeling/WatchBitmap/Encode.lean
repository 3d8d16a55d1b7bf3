import WatchBitmap.BitPacking
import WatchBitmap.Header
import WatchBitmap.Palette
import WatchBitmap.PixelBuffer
import WatchBitmap.Rows

/-!
# Encoding a picture

A blob is a header, the packed rows of the picture, and the palette if the format has one.  It
depends on nothing but the picture and the options, so encoding the same picture again gives the
same bytes.

* `Encoding` — the three parts, and `Encoding.toBytes`, the blob.
* `encoding` — the parts for a picture, or why there are none.
* `encode` — the blob.
-/

namespace WatchBitmap

/-- The parts of a blob. -/
structure Encoding where
  header : Header
  /-- The rows as they are stored, end to end. -/
  rows : List UInt8
  /-- Palette entries in index order. -/
  palette : List Color
deriving DecidableEq, Repr

/-- The blob. -/
def Encoding.toBytes (e : Encoding) : List UInt8 :=
  e.header.toBytes ++ e.rows ++ Palette.tableBytes e.palette

/-- The key that a selector asks for. -/
def keyOfSelector : Option String → Except EncodeError (Option ColorKey)
  | none => .ok none
  | some selector =>
      match ColorKey.ofSelector? selector with
      | some key => .ok (some key)
      | none => .error (.invalidSelector selector)

/-- **Settling the format**, and for an indexed format the palette.  A fixed format is scanned up
to its own capacity, the search for the narrowest one up to the widest. -/
def settleFormat (colors : List Color) (key : Option ColorKey) :
    FormatChoice → Except EncodeError (Format × Option Palette)
  | .fixed .monochrome => .ok (.monochrome, none)
  | .fixed format => do
      let palette := Palette.collect key format.capacity colors
      palette.ensureCapacity format.capacity
      return (format, some palette)
  | .smallestIndexed =>
      let palette := Palette.collect key Format.indexed8.capacity colors
      match Format.smallestIndexed? palette.size with
      | some format => .ok (format, some palette)
      | none => .error (.paletteOverflow palette.size Format.indexed8.capacity)

/-- The value that stands for a color in a palette. -/
def Palette.valueOf (p : Palette) (c : Color) : Except EncodeError UInt8 :=
  match p.indexOf? c with
  | some index => .ok index
  | none => .error (.unindexedColor c)

/-- The value that stands for a bit. -/
def bitValue (lit : Bool) : UInt8 :=
  if lit then 1 else 0

/-- The values of all pixels, row by row: palette indices, or bits if there is no palette. -/
def pixelValues (b : PixelBuffer) : Option Palette → Except EncodeError (List UInt8)
  | none => .ok (b.bits.map bitValue)
  | some palette => b.colors.mapM palette.valueOf

/-- A packed row as it is stored. -/
def storeRow : Compression → List UInt8 → List UInt8
  | .none, row => row
  | .rows, row => PackBits.encodeRow row

/-- All rows of a picture's values as they are stored. -/
def storeRows (format : Format) (compression : Compression) (width height : Nat)
    (values : List UInt8) : List UInt8 :=
  (splitRows width height values).flatMap fun row =>
    storeRow compression (BitPacking.packRow format.bitsPerPixel row)

/-- **The parts of a picture's blob.**  The dimensions are looked at first, then the key, then the
number of colors. -/
def encoding (b : PixelBuffer) (options : EncodeOptions) : Except EncodeError Encoding := do
  if b.isEmpty then
    throw (.emptyBuffer b.width b.height)
  let key ← keyOfSelector options.colorKey
  let (format, palette) ← settleFormat b.colors key options.format
  let values ← pixelValues b palette
  let entries := palette.elim [] Palette.entries
  return {
    header := .ofPicture format b.width b.height (UInt16.ofNat entries.length) key
      (options.compression = .rows)
    rows := storeRows format options.compression b.width.toNat b.height.toNat values
    palette := entries
  }

/-- **Encoding.**  The blob of a picture. -/
def encode (b : PixelBuffer) (options : EncodeOptions) : Except EncodeError (List UInt8) :=
  (encoding b options).map Encoding.toBytes

end WatchBitmap
