import WatchBitmap.Decoding
import WatchBitmap.Png.Chunk

/-!
# Decoding with a library

What decodes is a library that is not looked into.  It has a text to say why there is no picture, or
it hands over four bytes for each pixel.  Around it, the signature is looked at before the library
is asked, and its pixels are checked and reduced to bits if bits are wanted.

* `RasterImage` — a picture as four bytes per pixel, unchecked.
* `PictureLibrary` — a library that decodes pictures, with the one law that it keeps.
* `PictureLibrary.decode` — **the decoder** that such a library makes.
-/

namespace WatchBitmap

/-- A picture as four bytes per pixel.  Nothing says that there are as many as its dimensions call
for. -/
structure RasterImage where
  width : UInt32
  height : UInt32
  pixels : List UInt8
deriving DecidableEq, Repr

/-- A raster in the form that is asked for.  Every four bytes are a color, and the checked
constructors have to accept the result; if they do not, the file counts as broken. -/
def RasterImage.inForm (image : RasterImage) (mode : PixelMode) : Except DecodeError PixelBuffer :=
  let colors := Color.ofBytes image.pixels
  let buffer := match mode with
    | .rgba => PixelBuffer.ofColors image.width image.height colors
    | .mono => PixelBuffer.ofBits image.width image.height (colors.map Color.isLit)
  buffer.mapError fun cause => .corrupted cause.message

/-- A library that decodes pictures.  All that is known of it is that a picture comes with four
bytes for each pixel. -/
structure PictureLibrary where
  picture : List UInt8 → Except String RasterImage
  length_pixels : ∀ {file : List UInt8} {image : RasterImage}, picture file = .ok image →
    image.pixels.length = image.width.toNat * image.height.toNat * 4

/-- **Decoding**: the signature is looked at first, and the library is asked only behind it. -/
def PictureLibrary.decode (library : PictureLibrary) : Decoder := fun file mode =>
  if Png.signature.isPrefixOf file then do
    let image ← (library.picture file).mapError .corrupted
    image.inForm mode
  else
    .error .invalidFormat

end WatchBitmap
