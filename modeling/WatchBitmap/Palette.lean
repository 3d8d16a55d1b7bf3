import WatchBitmap.EncodeError

/-!
# Palettes

The colors of a picture in the order in which a row-by-row scan meets them.  A transparency key
comes before all of them, whether or not the picture uses its color.

* `Palette` — the entries, and the way back from a color to its index.
* `Palette.collect` — the palette of some colors.  The scan ends as soon as there are more than
  `limit` entries, which is enough to know that they are too many.
-/

namespace WatchBitmap

/-- Entries in index order, and the index of each. -/
structure Palette where
  entries : List Color
  /-- The index of each entry, the latest first. -/
  slots : List (Color × Nat)
deriving DecidableEq, Repr

namespace Palette

/-- The palette of no colors. -/
def empty : Palette :=
  ⟨[], []⟩

/-- How many entries there are. -/
def size (p : Palette) : Nat :=
  p.entries.length

/-- The position of a color among the entries. -/
def slotOf? (p : Palette) (c : Color) : Option Nat :=
  p.slots.lookup c

/-- Adds a color behind the others, unless it is there. -/
def insert (p : Palette) (c : Color) : Palette :=
  match p.slotOf? c with
  | some _ => p
  | none => ⟨p.entries ++ [c], (c, p.size) :: p.slots⟩

/-- Adds colors one by one, as long as there are at most `limit` entries before each. -/
def scan (limit : Nat) : Palette → List Color → Palette
  | p, [] => p
  | p, c :: cs => if limit < p.size then p else scan limit (p.insert c) cs

/-- The palette that holds a key's color only. -/
def ofKey : Option ColorKey → Palette
  | none => empty
  | some key => empty.insert key.color

/-- **The palette of some colors**, with a key's color at the front. -/
def collect (key : Option ColorKey) (limit : Nat) (colors : List Color) : Palette :=
  scan limit (ofKey key) colors

/-- Refuses a palette of more entries than a format can index. -/
def ensureCapacity (p : Palette) (capacity : Nat) : Except EncodeError Unit :=
  if capacity < p.size then .error (.paletteOverflow p.size capacity) else .ok ()

/-- The index that stands for a color.  It is the position in one byte, so it means something only
in a palette of at most 256 entries. -/
def indexOf? (p : Palette) (c : Color) : Option UInt8 :=
  (p.slotOf? c).map UInt8.ofNat

/-- The entries as a blob stores them. -/
def tableBytes (entries : List Color) : List UInt8 :=
  entries.flatMap Color.toBytes

end Palette

end WatchBitmap
