import WatchBitmap.BitPacking
import WatchBitmap.Header
import WatchBitmap.PixelBuffer
import WatchBitmap.Rows

/-!
# Reading a watch bitmap

* `Image` — what a blob holds: its header, its rows in packed form, and its palette.
* `Image.read` — the checked reader.  Compressed rows are expanded one by one, so what is built
  is bounded by the bytes that are there and not by the size that is declared.
* `Image.toPixelBuffer` — the picture.
-/

namespace WatchBitmap

/-- The contents of a blob. -/
structure Image where
  header : Header
  /-- The packed rows, end to end. -/
  rows : List UInt8
  palette : List Color
deriving DecidableEq, Repr

namespace Image

/-- The packed rows at the front of a blob's body, and how many bytes they take there.  The size
of the whole blob is named if they are not all there. -/
def readRows (header : Header) (blobSize : Nat) (body : List UInt8) :
    Except ReadError (List UInt8 × Nat) :=
  if header.isCompressed then
    let e := PackBits.expandRows header.rowStride.toNat header.height.toNat body
    match e.error? with
    | some error => .error (.row error)
    | none => .ok (e.bytes, e.used)
  else if header.dataLength ≤ body.length then
    .ok (body.take header.dataLength, header.dataLength)
  else
    .error (.truncated (min (headerSize + header.dataLength) countLimit) blobSize)

/-- **Reading.**  The whole blob has to be header, rows and palette, with nothing after them. -/
def read (bytes : List UInt8) : Except ReadError Image := do
  let header ← Header.read bytes
  let body := bytes.drop headerSize
  let (rows, used) ← readRows header bytes.length body
  let table := body.drop used
  if table.length ≠ header.paletteSize.toNat * 4 then
    throw (.paletteMismatch (header.paletteSize.toNat * 4) table.length)
  return ⟨header, rows, Color.ofBytes table⟩

/-- The packed bytes of a row. -/
def row? (image : Image) (y : Nat) : Option (List UInt8) :=
  let stride := image.header.rowStride.toNat
  if y * stride + stride ≤ image.rows.length then
    some ((image.rows.drop (y * stride)).take stride)
  else
    none

/-- All packed rows. -/
def packedRows (image : Image) : List (List UInt8) :=
  splitRows image.header.rowStride.toNat image.header.height.toNat image.rows

/-- The values of all pixels, row by row: bits, or palette indices. -/
def pixelValues? (image : Image) : Option (List UInt8) :=
  (image.packedRows.mapM
    (BitPacking.unpackRow? image.header.format.bitsPerPixel image.header.width.toNat)).map
    List.flatten

/-- The color that a value stands for. -/
def colorOf (image : Image) (index : UInt8) : Except ReadError Color :=
  match image.palette[index.toNat]? with
  | some color => .ok color
  | none => .error (.indexOutOfRange index image.palette.length)

/-- A picture, or why the pixels make up none. -/
def bufferOf (result : Except EncodeError PixelBuffer) : Except ReadError PixelBuffer :=
  result.mapError .buffer

/-- **The picture.**  A monochrome image gives a picture of bits, an indexed one looks each value
up in the palette. -/
def toPixelBuffer (image : Image) : Except ReadError PixelBuffer :=
  match image.pixelValues? with
  | none => .error .rowOutOfRange
  | some values =>
      if image.header.format.isIndexed then do
        let colors ← values.mapM image.colorOf
        bufferOf (PixelBuffer.ofColors image.header.width image.header.height colors)
      else
        bufferOf (PixelBuffer.ofBits image.header.width image.header.height
          (values.map (· != 0)))

end Image

end WatchBitmap
