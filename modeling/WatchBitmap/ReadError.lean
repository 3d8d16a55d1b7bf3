import WatchBitmap.EncodeError
import WatchBitmap.PackBits

/-!
# What is wrong with a blob

`ReadError` lists the causes for which bytes are no watch bitmap, or a watch bitmap has no
picture; `ReadError.message` words them.
-/

namespace WatchBitmap

/-- Why a blob cannot be read. -/
inductive ReadError where
  /-- There are fewer bytes than the header, or what it declares, calls for. -/
  | truncated (needed actual : Nat)
  | unsupportedVersion (version : UInt16)
  | unknownFormat (tag : UInt8)
  /-- A flag bit is set that has no meaning. -/
  | unknownFlags (flags : UInt8)
  | emptyImage (width height : UInt32)
  /-- The declared row stride is not that of the declared width. -/
  | strideMismatch (expected actual : UInt32)
  /-- There are more palette entries than pixel values. -/
  | paletteTooLarge (size limit : Nat)
  /-- What follows the pixels is not a palette of the declared size. -/
  | paletteMismatch (expected actual : Nat)
  /-- A pixel has no palette entry. -/
  | indexOutOfRange (index : UInt8) (paletteSize : Nat)
  /-- A compressed row is not in order. -/
  | row (error : PackBits.RowError)
  /-- The pixels do not make up a picture. -/
  | buffer (error : EncodeError)
  /-- A row was asked for that is not there. -/
  | rowOutOfRange
deriving DecidableEq, Repr

namespace ReadError

/-- The wording of an error. -/
def message : ReadError → String
  | truncated needed actual =>
      "Truncated PBI: need " ++ toString needed ++ " bytes, got " ++ toString actual
  | unsupportedVersion version => "Unsupported PBI version " ++ toString version.toNat
  | unknownFormat tag => "Unknown PBI format tag " ++ toString tag.toNat
  | unknownFlags flags => "Unknown PBI flag bits 0x" ++ Hex.ofByte flags
  | emptyImage width height =>
      "PBI declares an empty image (" ++ toString width.toNat ++ "x" ++ toString height.toNat
        ++ ")"
  | strideMismatch expected actual =>
      "Row stride mismatch: expected " ++ toString expected.toNat ++ ", header says "
        ++ toString actual.toNat
  | paletteTooLarge size limit =>
      "Palette of " ++ toString size ++ " entries exceeds format limit " ++ toString limit
  | paletteMismatch expected actual =>
      "Palette table mismatch: expected " ++ toString expected
        ++ " bytes after pixel data, found " ++ toString actual
  | indexOutOfRange index paletteSize =>
      "Pixel index " ++ toString index.toNat ++ " out of range for " ++ toString paletteSize
        ++ " palette entries"
  | row error => error.message
  | buffer error => error.message
  | rowOutOfRange => "Row out of range"

end ReadError

end WatchBitmap
