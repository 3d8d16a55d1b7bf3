import WatchBitmap.PixelBuffer

/-!
# What a decoder is asked for

* `PixelMode` — whether pixels are wanted as colors or as bits.
* `DecodeError` — why a file gives no pixels, worded by `DecodeError.message`.
* `Decoder` — what turns the bytes of a file into pixels.
-/

namespace WatchBitmap

/-- In which form pixels are handed to the encoder. -/
inductive PixelMode where
  /-- All channels are kept. -/
  | rgba
  /-- Each pixel is reduced to whether it is lit. -/
  | mono
deriving DecidableEq, Repr

/-- The name of a mode. -/
def PixelMode.name : PixelMode → String
  | rgba => "rgba"
  | mono => "mono"

/-- Why a file gives no pixels. -/
inductive DecodeError where
  /-- The bytes do not begin like a PNG file. -/
  | invalidFormat
  /-- They begin like one and then break its rules, or end too soon; the text says what is wrong. -/
  | corrupted (text : String)
  /-- The bytes could not be had; the text says what was in the way. -/
  | io (text : String)
deriving DecidableEq, Repr

/-- The wording of an error. -/
def DecodeError.message : DecodeError → String
  | invalidFormat => "Invalid or unsupported image format"
  | corrupted text => "Corrupted or incomplete image file: " ++ text
  | io text => "I/O error: " ++ text

/-- What turns the bytes of a file into pixels of the form that is asked for. -/
abbrev Decoder :=
  List UInt8 → PixelMode → Except DecodeError PixelBuffer

end WatchBitmap
