import WatchBitmap.EncodeError

/-!
# Pixel buffers

A decoded picture: its dimensions and one value per pixel, row by row.  The values are bits,
indices into a palette of the buffer's own, or colors.

* `PixelData` — the values, and what color and what bit they give each pixel.
* `PixelBuffer` — a picture whose data matches its dimensions and whose indices are all in range.
* `PixelBuffer.ofData`, `PixelBuffer.ofBytes` — the checked constructors; they compare sizes that
  stop growing at `countLimit`.
-/

namespace WatchBitmap

/-- The values of a picture's pixels, row by row. -/
inductive PixelData where
  /-- One bit per pixel, settled by whoever decoded the picture. -/
  | mono (bits : List Bool)
  /-- Indices into a palette. -/
  | indexed (indices : List UInt8) (palette : List Color)
  /-- Colors. -/
  | rgba (colors : List Color)
deriving DecidableEq, Repr

namespace PixelData

/-- How many pixels there are. -/
def size : PixelData → Nat
  | mono bits => bits.length
  | indexed indices _ => indices.length
  | rgba colors => colors.length

/-- The color of the pixel at a position, unless it or its palette entry is missing. -/
def colorAt? : PixelData → Nat → Option Color
  | mono bits, i => bits[i]?.map Color.ofBit
  | indexed indices palette, i => indices[i]?.bind fun k => palette[k.toNat]?
  | rgba colors, i => colors[i]?

/-- The bit of the pixel at a position: a one-bit picture's own, else whether the color is lit. -/
def bitAt? : PixelData → Nat → Option Bool
  | mono bits, i => bits[i]?
  | data, i => (data.colorAt? i).map Color.isLit

/-- All colors, row by row. -/
def colors : PixelData → List Color
  | mono bits => bits.map Color.ofBit
  | indexed indices palette => indices.filterMap fun k => palette[k.toNat]?
  | rgba colors => colors

/-- All bits, row by row. -/
def bits : PixelData → List Bool
  | mono bits => bits
  | data => data.colors.map Color.isLit

/-- The first index that has no palette entry, with the size of the palette. -/
def badIndex? : PixelData → Option (UInt8 × Nat)
  | indexed indices palette =>
      (indices.find? fun k => decide (palette.length ≤ k.toNat)).map (·, palette.length)
  | _ => none

/-- **Bits and colors agree.**  The bits of a picture are determined by its colors, also for a
picture that stores bits. -/
theorem bits_eq_map_isLit (data : PixelData) : data.bits = data.colors.map Color.isLit := by
  cases data with
  | mono values =>
      have hlit : Color.isLit ∘ Color.ofBit = id := funext Color.isLit_ofBit
      simp [PixelData.bits, PixelData.colors, hlit]
  | indexed indices palette => rfl
  | rgba values => rfl

theorem length_colors {data : PixelData} (h : data.badIndex? = none) :
    data.colors.length = data.size := by
  cases data with
  | mono bits => simp [colors, size]
  | rgba colors => rfl
  | indexed indices palette =>
      simp only [badIndex?, Option.map_eq_none_iff, List.find?_eq_none, decide_eq_true_eq,
        Nat.not_le] at h
      induction indices with
      | nil => rfl
      | cons k ks ih =>
          have hk := h k (by simp)
          have ih := ih fun j hj => h j (by simp [hj])
          simp only [colors, size] at ih ⊢
          simp [List.getElem?_eq_getElem hk, ih]

/-- The list of colors holds at each position the color of that pixel. -/
theorem getElem?_colors {data : PixelData} (h : data.badIndex? = none) (i : Nat) :
    data.colors[i]? = data.colorAt? i := by
  cases data with
  | mono bits => simp [colors, colorAt?]
  | rgba colors => rfl
  | indexed indices palette =>
      simp only [badIndex?, Option.map_eq_none_iff, List.find?_eq_none, decide_eq_true_eq,
        Nat.not_le] at h
      induction indices generalizing i with
      | nil => rfl
      | cons k ks ih =>
          have hk := h k (by simp)
          have ih := fun i => ih i fun j hj => h j (by simp [hj])
          simp only [colors, colorAt?] at ih ⊢
          cases i with
          | zero => simp [List.getElem?_eq_getElem hk]
          | succ i => simp [List.getElem?_eq_getElem hk, ih]

/-- The list of bits holds at each position the bit of that pixel. -/
theorem getElem?_bits {data : PixelData} (h : data.badIndex? = none) (i : Nat) :
    data.bits[i]? = data.bitAt? i := by
  cases data with
  | mono bits => rfl
  | rgba values => simp [PixelData.bits, bitAt?, PixelData.colors, colorAt?]
  | indexed indices palette =>
      have hcolor := getElem?_colors h i
      simp only [bits, bitAt?, List.getElem?_map, hcolor]

end PixelData

/-- The largest count of values that is told apart from larger ones. -/
def countLimit : Nat := 0xffffffffffffffff

/-- The values that a picture of these dimensions needs, with so many values per pixel.  A count
past the limit is the limit itself, and no data is that long. -/
def expectedCount (width height : UInt32) (perPixel : Nat) : Nat :=
  min (width.toNat * height.toNat * perPixel) countLimit

theorem mul_lt_countLimit (width height : UInt32) :
    width.toNat * height.toNat < countLimit := by
  have hw : width.toNat ≤ 2 ^ 32 - 1 := Nat.le_sub_one_of_lt width.toNat_lt
  have hh : height.toNat ≤ 2 ^ 32 - 1 := Nat.le_sub_one_of_lt height.toNat_lt
  calc width.toNat * height.toNat ≤ (2 ^ 32 - 1) * (2 ^ 32 - 1) := Nat.mul_le_mul hw hh
    _ < countLimit := by decide

/-- With one value per pixel the count is exact. -/
theorem expectedCount_one (width height : UInt32) :
    expectedCount width height 1 = width.toNat * height.toNat := by
  have := mul_lt_countLimit width height
  simp only [expectedCount, Nat.mul_one]
  omega

/-- A picture whose data matches its dimensions.  One with a zero dimension can be built; it is
the encoder that refuses it. -/
structure PixelBuffer where
  width : UInt32
  height : UInt32
  data : PixelData
  size_eq : data.size = width.toNat * height.toNat
  badIndex_eq : data.badIndex? = none
deriving DecidableEq

namespace PixelBuffer

/-- **The checked constructor.**  The number of values is looked at first, then the indices. -/
def ofData (width height : UInt32) (data : PixelData) : Except EncodeError PixelBuffer :=
  if hsize : data.size = expectedCount width height 1 then
    match hbad : data.badIndex? with
    | some (index, paletteSize) => .error (.sourceIndexOutOfRange index paletteSize)
    | none => .ok ⟨width, height, data, by rw [hsize, expectedCount_one], hbad⟩
  else
    .error (.pixelCount (expectedCount width height 1) data.size)

/-- A picture from its colors. -/
def ofColors (width height : UInt32) (colors : List Color) : Except EncodeError PixelBuffer :=
  ofData width height (.rgba colors)

/-- A picture from four bytes per pixel. -/
def ofBytes (width height : UInt32) (bytes : List UInt8) : Except EncodeError PixelBuffer :=
  if bytes.length = expectedCount width height 4 then
    ofColors width height (Color.ofBytes bytes)
  else
    .error (.pixelCount (expectedCount width height 4) bytes.length)

/-- A one-bit picture. -/
def ofBits (width height : UInt32) (bits : List Bool) : Except EncodeError PixelBuffer :=
  ofData width height (.mono bits)

/-- A picture from indices into a palette. -/
def ofIndices (width height : UInt32) (indices : List UInt8) (palette : List Color) :
    Except EncodeError PixelBuffer :=
  ofData width height (.indexed indices palette)

/-- Whether a dimension is zero. -/
def isEmpty (b : PixelBuffer) : Bool :=
  b.width == 0 || b.height == 0

/-- How many pixels there are. -/
def pixelCount (b : PixelBuffer) : Nat :=
  b.data.size

/-- All colors, row by row. -/
def colors (b : PixelBuffer) : List Color :=
  b.data.colors

/-- All bits, row by row. -/
def bits (b : PixelBuffer) : List Bool :=
  b.data.bits

/-- The color of the pixel at a position. -/
def colorAt? (b : PixelBuffer) (i : Nat) : Option Color :=
  b.data.colorAt? i

/-- The bit of the pixel at a position. -/
def bitAt? (b : PixelBuffer) (i : Nat) : Option Bool :=
  b.data.bitAt? i

@[simp] theorem length_colors (b : PixelBuffer) :
    b.colors.length = b.width.toNat * b.height.toNat := by
  rw [colors, PixelData.length_colors b.badIndex_eq, b.size_eq]

@[simp] theorem length_bits (b : PixelBuffer) :
    b.bits.length = b.width.toNat * b.height.toNat := by
  rw [bits, PixelData.bits_eq_map_isLit, List.length_map]
  exact b.length_colors

theorem getElem?_colors (b : PixelBuffer) (i : Nat) : b.colors[i]? = b.colorAt? i :=
  PixelData.getElem?_colors b.badIndex_eq i

theorem getElem?_bits (b : PixelBuffer) (i : Nat) : b.bits[i]? = b.bitAt? i :=
  PixelData.getElem?_bits b.badIndex_eq i

/-- Each pixel has a color. -/
theorem exists_colorAt? (b : PixelBuffer) {i : Nat} (hi : i < b.pixelCount) :
    ∃ c, b.colorAt? i = some c := by
  rw [pixelCount, b.size_eq, ← b.length_colors] at hi
  exact ⟨_, by rw [← b.getElem?_colors, List.getElem?_eq_getElem hi]⟩

/-- Each pixel has a bit. -/
theorem exists_bitAt? (b : PixelBuffer) {i : Nat} (hi : i < b.pixelCount) :
    ∃ bit, b.bitAt? i = some bit := by
  rw [pixelCount, b.size_eq, ← b.length_bits] at hi
  exact ⟨_, by rw [← b.getElem?_bits, List.getElem?_eq_getElem hi]⟩

end PixelBuffer

end WatchBitmap
