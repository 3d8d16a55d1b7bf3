import WatchBitmap.Compile
import WatchBitmap.Config.Encoding
import WatchBitmap.Config.Resources
import WatchBitmap.Image
import WatchBitmap.PictureLibrary

/-!
# What a host application is offered

A host holds pictures as plain bytes (`RasterImage`) and gets messages instead of errors.  Its own
values lie outside: a declaration comes as what reading it from one of them came to, and a summary
is left as it is before it is turned into one.

* `Host.Failure` — why a call gives nothing, worded by `Host.Failure.message`.
* `Host.encodePixels`, `Host.encodeImage` — the blob of a picture.
* `Host.decode`, `Host.inspect` — the picture of a file, and what a blob says about itself.
* `Host.compileResource` — the blob of one declared resource, with what goes to the console.
-/

namespace WatchBitmap

namespace RasterImage

/-- How many bytes there are. -/
def byteLength (image : RasterImage) : Nat :=
  image.pixels.length

/-- A picture with its colors written out. -/
def ofBuffer (b : PixelBuffer) : RasterImage :=
  ⟨b.width, b.height, b.colors.flatMap Color.toBytes⟩

/-- The checked picture. -/
def toBuffer (image : RasterImage) : Except EncodeError PixelBuffer :=
  PixelBuffer.ofBytes image.width image.height image.pixels

end RasterImage

/-- What a blob says about itself. -/
structure BlobSummary where
  format : Format
  width : UInt32
  height : UInt32
  rowStride : UInt32
  transparent : Bool
  compressed : Bool
  colorKey : Option ColorKey
  palette : List Color
deriving DecidableEq, Repr

/-- The summary of an image. -/
def BlobSummary.ofImage (image : Image) : BlobSummary where
  format := image.header.format
  width := image.header.width
  height := image.header.height
  rowStride := image.header.rowStride
  transparent := image.header.isTransparent
  compressed := image.header.isCompressed
  colorKey := image.header.colorKey
  palette := image.palette

namespace Host

/-- The version of the library. -/
def version : String := "0.1.0"

/-- Why a call gives nothing. -/
inductive Failure where
  /-- The code stands for no format. -/
  | unknownFormat (code : UInt8)
  /-- The declaration of a resource cannot be read; the text says why. -/
  | invalidDefinition (text : String)
  | encode (cause : EncodeError)
  | decode (cause : DecodeError)
  | read (cause : ReadError)
  | resource (cause : ResourceError)
deriving DecidableEq, Repr

/-- The message that a host gets. -/
def Failure.message : Failure → String
  | unknownFormat code => "Unknown format code: " ++ toString code.toNat
  | invalidDefinition text => "Invalid resource definition: " ++ text
  | encode cause => cause.message
  | decode cause => cause.message
  | read cause => cause.message
  | resource cause => cause.message

/-- The encoder options of a host's arguments. -/
def options (code : UInt8) (key : Option String) (compress : Bool) :
    Except Failure EncodeOptions :=
  match Format.ofTag? code with
  | some format => .ok ⟨.fixed format, key, .ofBool compress⟩
  | none => .error (.unknownFormat code)

/-- The blob of a checked picture. -/
def encodeBuffer (b : PixelBuffer) (code : UInt8) (key : Option String) (compress : Bool) :
    Except Failure (List UInt8) := do
  let options ← options code key compress
  (encode b options).mapError .encode

/-- **The blob of a picture.**  The picture is checked before the format. -/
def encodeImage (image : RasterImage) (code : UInt8) (key : Option String) (compress : Bool) :
    Except Failure (List UInt8) := do
  let b ← image.toBuffer.mapError .encode
  encodeBuffer b code key compress

/-- The blob of a picture that is given by its bytes. -/
def encodePixels (pixels : List UInt8) (width height : UInt32) (code : UInt8)
    (key : Option String) (compress : Bool) : Except Failure (List UInt8) :=
  encodeImage ⟨width, height, pixels⟩ code key compress

/-- The picture of a file. -/
def decode (decoder : Decoder) (png : List UInt8) : Except Failure RasterImage :=
  ((decoder png .rgba).map RasterImage.ofBuffer).mapError .decode

/-- **What a blob says about itself**, before the host turns it into one of its values. -/
def inspect (blob : List UInt8) : Except Failure BlobSummary :=
  ((Image.read blob).map BlobSummary.ofImage).mapError .read

/-- The blob of a declared resource whose file is given, on one of the stock platforms. -/
def compileDefinition (decoder : Decoder) (d : ResourceDefinition) (png : List UInt8)
    (platform : String) : Except ResourceError (List UInt8) := do
  let context : BuildContext := ⟨platform, .stock⟩
  let options ← d.encodeOptions context
  let buffer ← (decoder png options.pixelMode).mapError (.decode d.name)
  let object ← (d.generate buffer context).result
  return object.data

/-- What a call gives back, and the messages that it wrote to the console. -/
structure Outcome (α : Type) where
  result : Except Failure α
  console : List String

/-- The declaration in a JSON text, with words for what is wrong with the text. -/
def readDefinition (words : Json.Fault → String) (text : String) :
    Except String ResourceDefinition :=
  (ResourceDefinition.ofText text).mapError words

/-- **The blob of a resource.**  A failure is reported on the console too, unless it is the
declaration that could not be read. -/
def compileResource (decoder : Decoder) (definition : Except String ResourceDefinition)
    (png : List UInt8) (platform : String) : Outcome (List UInt8) :=
  match definition with
  | .error text => ⟨.error (.invalidDefinition text), []⟩
  | .ok d =>
      match compileDefinition decoder d png platform with
      | .ok data => ⟨.ok data, []⟩
      | .error error => ⟨.error (.resource error), [error.message]⟩

end Host

end WatchBitmap
