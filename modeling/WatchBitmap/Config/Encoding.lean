import WatchBitmap.Format
import WatchBitmap.Color
import WatchBitmap.Json.Record
import WatchBitmap.Json.Variant

/-!
# Colors and encoder options in JSON

Every type has a reader `json` and a writer `toJson`; where texts are handled as a whole,
`ofText` and `toText` stand beside them.

* `Color` — an object of its four channels.
* `ColorKey`, `Format`, `Compression` — the names of their values.
* `FormatChoice` — a name, or a format under the name `Fixed`.
* `EncodeOptions` — an object in which only the format has to be there.
-/

namespace WatchBitmap

open Json (Reader Record Variant Fault)

namespace Color

/-- The channels that have been read. -/
structure Channels where
  r : Option UInt8 := none
  g : Option UInt8 := none
  b : Option UInt8 := none
  a : Option UInt8 := none

/-- A color as a record. -/
def record : Record Color Channels where
  blank := {}
  fields := [
    ⟨"r", fun c => c.r.isSome, fun c text =>
      (Json.byte text).map fun (v, rest) => ({ c with r := some v }, rest)⟩,
    ⟨"g", fun c => c.g.isSome, fun c text =>
      (Json.byte text).map fun (v, rest) => ({ c with g := some v }, rest)⟩,
    ⟨"b", fun c => c.b.isSome, fun c text =>
      (Json.byte text).map fun (v, rest) => ({ c with b := some v }, rest)⟩,
    ⟨"a", fun c => c.a.isSome, fun c text =>
      (Json.byte text).map fun (v, rest) => ({ c with a := some v }, rest)⟩]
  finish c := do return ⟨← c.r, ← c.g, ← c.b, ← c.a⟩

/-- Reads a color. -/
def json : Reader Color :=
  record.read

/-- Writes a color. -/
def toJson (c : Color) : List Char :=
  Json.writeObject [
    ("r", Json.writeByte c.r),
    ("g", Json.writeByte c.g),
    ("b", Json.writeByte c.b),
    ("a", Json.writeByte c.a)]

end Color

namespace ColorKey

/-- Reads a key. -/
def json : Reader ColorKey :=
  Json.oneOf ([white, black].map fun key => .plain key.name key)

/-- Writes a key. -/
def toJson (key : ColorKey) : List Char :=
  Json.Text.write key.name

end ColorKey

namespace Format

/-- Reads a format. -/
def json : Reader Format :=
  Json.oneOf ([monochrome, indexed2, indexed4, indexed8].map fun f => .plain f.name f)

/-- Writes a format. -/
def toJson (f : Format) : List Char :=
  Json.Text.write f.name

end Format

namespace FormatChoice

/-- The name of the choice of one format. -/
def fixedName : String := "Fixed"

/-- The name of the choice of the narrowest indexed format. -/
def smallestName : String := "SmallestIndexed"

/-- Reads a choice of a format. -/
def json : Reader FormatChoice :=
  Json.oneOf [
    .carrying fixedName fun text =>
      (Format.json text).map fun (f, rest) => (.fixed f, rest),
    .plain smallestName .smallestIndexed]

/-- Writes a choice of a format. -/
def toJson : FormatChoice → List Char
  | fixed f => Json.writeCarrying fixedName f.toJson
  | smallestIndexed => Json.Text.write smallestName

end FormatChoice

namespace Compression

/-- The spelling of a compression. -/
def name : Compression → String
  | none => "None"
  | rows => "RowRle"

/-- Reads a compression. -/
def json : Reader Compression :=
  Json.oneOf ([Compression.none, rows].map fun c => .plain c.name c)

/-- Writes a compression. -/
def toJson (c : Compression) : List Char :=
  Json.Text.write c.name

end Compression

namespace EncodeOptions

/-- The options that have been read. -/
structure Parts where
  format : Option FormatChoice := none
  colorKey : Option (Option String) := none
  compression : Option Compression := none

/-- Encoder options as a record.  Without a key or a compression there is none. -/
def record : Record EncodeOptions Parts where
  blank := {}
  fields := [
    ⟨"format", fun p => p.format.isSome, fun p text =>
      (FormatChoice.json text).map fun (v, rest) => ({ p with format := some v }, rest)⟩,
    ⟨"color_key", fun p => p.colorKey.isSome, fun p text =>
      (Json.optional Json.string text).map fun (v, rest) => ({ p with colorKey := some v }, rest)⟩,
    ⟨"compression", fun p => p.compression.isSome, fun p text =>
      (Compression.json text).map fun (v, rest) => ({ p with compression := some v }, rest)⟩]
  finish p := do return ⟨← p.format, p.colorKey.getD none, p.compression.getD .none⟩

/-- Reads encoder options. -/
def json : Reader EncodeOptions :=
  record.read

/-- Writes encoder options. -/
def toJson (options : EncodeOptions) : List Char :=
  Json.writeObject [
    ("format", options.format.toJson),
    ("color_key", Json.writeOptional Json.Text.write options.colorKey),
    ("compression", options.compression.toJson)]

/-- Encoder options from a text. -/
def ofText (text : String) : Except Fault EncodeOptions :=
  json.ofWhole text

/-- Encoder options as a text. -/
def toText (options : EncodeOptions) : String :=
  String.ofList options.toJson

end EncodeOptions

end WatchBitmap
