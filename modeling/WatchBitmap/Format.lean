/-!
# Target formats and encoder options

* `Format` — the four pixel formats of a watch bitmap, with the number of bits of a pixel, the
  number of colors these can tell apart, and the tag that stands for the format in a header.
* `Format.rowStride` — how many bytes a packed row takes.
* `Format.smallestIndexed?` — the narrowest format whose palette has room for so many colors.
* `EncodeOptions` — a format or the wish for the narrowest one, a transparency key, and whether
  rows are compressed.
-/

namespace WatchBitmap

/-- How a pixel is stored: as one bit, or as an index of two, four or eight bits. -/
inductive Format where
  | monochrome
  | indexed2
  | indexed4
  | indexed8
deriving DecidableEq, Repr

namespace Format

/-- The bits that one pixel takes. -/
def bitsPerPixel : Format → Nat
  | monochrome => 1
  | indexed2 => 2
  | indexed4 => 4
  | indexed8 => 8

/-- How many values a pixel can have. -/
def capacity (f : Format) : Nat :=
  1 <<< f.bitsPerPixel

/-- All formats but the monochrome one store indices into a palette. -/
def isIndexed (f : Format) : Bool :=
  f != monochrome

/-- How many palette entries a blob of this format may declare. -/
def paletteLimit (f : Format) : Nat :=
  if f.isIndexed then f.capacity else 0

/-- The tag in a header. -/
def tag : Format → UInt8
  | monochrome => 0
  | indexed2 => 1
  | indexed4 => 2
  | indexed8 => 3

/-- The format that a tag stands for. -/
def ofTag? (tag : UInt8) : Option Format :=
  if tag = 0 then some monochrome
  else if tag = 1 then some indexed2
  else if tag = 2 then some indexed4
  else if tag = 3 then some indexed8
  else none

/-- **Bytes of a packed row**: its bits, rounded up to whole bytes. -/
def rowBytes (f : Format) (width : Nat) : Nat :=
  (width * f.bitsPerPixel + 7) / 8

/-- The bytes of a packed row as a header stores them.  No width makes them overflow, for a pixel
has at most eight bits. -/
def rowStride (f : Format) (width : UInt32) : UInt32 :=
  UInt32.ofNat (f.rowBytes width.toNat)

/-- The indexed formats, from the narrowest to the widest. -/
def indexed : List Format :=
  [indexed2, indexed4, indexed8]

/-- The narrowest indexed format with room for `colors` colors. -/
def smallestIndexed? (colors : Nat) : Option Format :=
  indexed.find? fun f => decide (colors ≤ f.capacity)

/-- The name of a format, in log lines and in configuration. -/
def name : Format → String
  | monochrome => "monochrome"
  | indexed2 => "indexed-2bpp"
  | indexed4 => "indexed-4bpp"
  | indexed8 => "indexed-8bpp"

/-- The format of a given name. -/
def ofName? (name : String) : Option Format :=
  [monochrome, indexed2, indexed4, indexed8].find? fun f => f.name == name

@[simp] theorem ofTag?_tag (f : Format) : ofTag? f.tag = some f := by
  cases f <;> rfl

theorem ofTag?_eq_some_iff {tag : UInt8} {f : Format} : ofTag? tag = some f ↔ f.tag = tag := by
  constructor
  · intro h
    grind [ofTag?, Format.tag]
  · rintro rfl
    exact ofTag?_tag f

/-- The first four tags stand for formats, and no others. -/
theorem ofTag?_eq_none_iff {tag : UInt8} : ofTag? tag = none ↔ 3 < tag := by
  grind [ofTag?]

@[simp] theorem ofName?_name (f : Format) : ofName? f.name = some f := by
  cases f <;> decide

theorem rowStride_toNat (f : Format) (width : UInt32) :
    (f.rowStride width).toNat = f.rowBytes width.toNat := by
  have hw : width.toNat < 2 ^ 32 := width.toNat_lt
  have hrow : f.rowBytes width.toNat < 2 ^ 32 := by
    cases f <;> simp only [rowBytes, bitsPerPixel] <;> omega
  rw [rowStride, UInt32.toNat_ofNat', Nat.mod_eq_of_lt hrow]

end Format

/-- How the format is chosen. -/
inductive FormatChoice where
  /-- Always this format. -/
  | fixed (format : Format)
  /-- The narrowest indexed format that has room for the picture's palette. -/
  | smallestIndexed
deriving DecidableEq, Repr

/-- What is done to the packed rows. -/
inductive Compression where
  /-- Rows are stored as they are. -/
  | none
  /-- Each row is run-length coded by itself. -/
  | rows
deriving DecidableEq, Repr

/-- Everything the encoder is told besides the picture. -/
structure EncodeOptions where
  format : FormatChoice
  /-- The selector of a transparency key; any text may be asked for. -/
  colorKey : Option String := Option.none
  compression : Compression := .none
deriving DecidableEq, Repr

end WatchBitmap
