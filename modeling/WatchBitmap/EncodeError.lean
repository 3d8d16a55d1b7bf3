import WatchBitmap.Color

/-!
# What stops a picture from being encoded

`EncodeError` lists the causes, `EncodeError.message` words them.  The same type serves the
construction of a pixel buffer and its encoding, for whoever handles the one handles the other.
-/

namespace WatchBitmap

/-- Why a pixel buffer cannot be built or encoded. -/
inductive EncodeError where
  /-- The width or the height is zero. -/
  | emptyBuffer (width height : UInt32)
  /-- The picture has more colors than the format can index.  The count stops at one too many. -/
  | paletteOverflow (colors capacity : Nat)
  /-- A color key was asked for by a selector that names none. -/
  | invalidSelector (selector : String)
  /-- The pixel data does not match the dimensions. -/
  | pixelCount (expected actual : Nat)
  /-- An index points past the end of the buffer's own palette. -/
  | sourceIndexOutOfRange (index : UInt8) (paletteSize : Nat)
  /-- A pixel's color has no place in the palette that was collected from the picture. -/
  | unindexedColor (color : Color)
deriving DecidableEq, Repr

namespace EncodeError

/-- The wording of an error. -/
def message : EncodeError → String
  | emptyBuffer width height =>
      "Empty buffer: width (" ++ toString width.toNat ++ ") and height ("
        ++ toString height.toNat ++ ") must be non-zero"
  | paletteOverflow colors capacity =>
      "Palette overflow: image uses at least " ++ toString colors
        ++ " colors, format allows at most " ++ toString capacity
  | invalidSelector selector =>
      "Invalid color key selector '" ++ selector ++ "': expected WHITE or BLACK"
  | pixelCount expected actual =>
      "Invalid pixel data: expected " ++ toString expected ++ " values, got " ++ toString actual
  | sourceIndexOutOfRange index paletteSize =>
      "Source palette index " ++ toString index.toNat ++ " out of range for "
        ++ toString paletteSize ++ " entries"
  | unindexedColor color =>
      "Color " ++ color.text ++ " has no palette index"

end EncodeError

end WatchBitmap
