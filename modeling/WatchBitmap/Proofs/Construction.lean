import Mathlib.Data.List.Basic
import Mathlib.Tactic.Common
import WatchBitmap.Proofs.RoundTrip

/-!
# What the construction of a picture makes sure of

A picture is looked at pixel by pixel, and nothing is checked when that is done.  All checks are
made when it is built: there has to be just one value for each pixel, and an index must have a
palette entry.  The sizes are compared as numbers of 64 bits, which a picture with four bytes for
each pixel can exceed although its width and height have 32 bits.  A size that does not fit is taken
for the largest number there is, and no bytes are that many.

* `PixelData.InRange`, `PixelData.badIndex?_append` — indices that are good, and the first that is
  not.
* `PixelBuffer.row?` — a row, looked up pixel by pixel.
* `PixelBuffer.Reachable` — everything that is looked up in a picture is there.
* `PixelBuffer.Construction`, `PixelBuffer.checked_construction` — **what is built, what is refused,
  and why.**
-/

namespace WatchBitmap

/-! ## Indices -/

namespace PixelData

/-- All indices have a palette entry. -/
def InRange : PixelData → Prop
  | indexed indices palette => ∀ k ∈ indices, k.toNat < palette.length
  | _ => True

/-- No index is found to be bad exactly if all are good. -/
lemma badIndex?_eq_none_iff (data : PixelData) : data.badIndex? = none ↔ data.InRange := by
  cases data with
  | mono bits => exact iff_of_true rfl trivial
  | rgba colors => exact iff_of_true rfl trivial
  | indexed indices palette =>
      simp only [badIndex?, Option.map_eq_none_iff, List.find?_eq_none, decide_eq_true_eq,
        Nat.not_le, InRange]

/-- **The first bad index is found**: those before it are good. -/
lemma badIndex?_append {before after : List UInt8} {k : UInt8} {palette : List Color}
    (hbefore : ∀ j ∈ before, j.toNat < palette.length) (hk : palette.length ≤ k.toNat) :
    (indexed (before ++ k :: after) palette).badIndex? = some (k, palette.length) := by
  have hgood : before.find? (fun j => decide (palette.length ≤ j.toNat)) = none := by
    rw [List.find?_eq_none]
    intro j hj
    simpa using hbefore j hj
  rw [badIndex?, List.find?_append, hgood, Option.none_or,
    List.find?_cons_of_pos (by simpa using hk)]
  rfl

end PixelData

/-! ## Colors from bytes -/

/-- The color at a position is read from the four bytes that begin four times as far. -/
lemma Color.take_drop_of_ofBytes {bytes : List UInt8} {i : ℕ} {c : Color}
    (hc : (Color.ofBytes bytes)[i]? = some c) : (bytes.drop (4 * i)).take 4 = c.toBytes := by
  fun_induction Color.ofBytes bytes generalizing i with
  | case1 r g b a rest ih =>
      cases i with
      | zero =>
          obtain rfl := Option.some.inj hc
          rfl
      | succ i => exact ih hc
  | case2 => exact absurd hc (by simp)

namespace PixelBuffer

/-! ## Rows -/

/-- One row of a picture, looked up pixel by pixel in whatever way `look` does that. -/
def row? {α : Type} (b : PixelBuffer) (look : PixelBuffer → ℕ → Option α) (y : ℕ) :
    Option (List α) :=
  (List.range' (y * b.width.toNat) b.width.toNat).mapM (look b)

/-- A pixel of a row is a pixel of the picture. -/
lemma lt_of_mem_row {b : PixelBuffer} {y i : ℕ} (hy : y < b.height.toNat)
    (hi : i ∈ List.range' (y * b.width.toNat) b.width.toNat) :
    i < b.width.toNat * b.height.toNat := by
  obtain ⟨hle, hlt⟩ := List.mem_range'_1.1 hi
  obtain ⟨x, rfl⟩ := Nat.exists_eq_add_of_le hle
  rw [Nat.mul_comm b.width.toNat]
  exact mul_add_lt_mul hy (by omega)

/-- **A row that is looked up pixel by pixel** is the row that is cut out of the list of what there
is to look up. -/
lemma row?_eq {α : Type} {b : PixelBuffer} {look : PixelBuffer → ℕ → Option α} {values : List α}
    (hlook : ∀ i, look b i = values[i]?) (hlength : values.length = b.width.toNat * b.height.toNat)
    {y : ℕ} (hy : y < b.height.toNat) :
    b.row? look y = (splitRows b.width.toNat b.height.toNat values)[y]? := by
  have hrow := length_of_mem_splitRows hlength (List.mem_of_getElem? (getElem?_splitRows hy values))
  rw [List.length_take] at hrow
  have hroom : b.width.toNat ≤ (values.drop (y * b.width.toNat)).length := by omega
  have hplace : look b ∘ (y * b.width.toNat + ·) = ((values.drop (y * b.width.toNat))[·]?) := by
    funext x
    rw [Function.comp_apply, hlook, List.getElem?_drop]
  rw [row?, List.range'_eq_map_range, List.mapM_map, hplace, mapM_getElem?_range, if_pos hroom,
    getElem?_splitRows hy]

/-- **Everything that is looked up in a picture is there.** -/
structure Reachable (b : PixelBuffer) : Prop where
  color : ∀ i < b.width.toNat * b.height.toNat, ∃ c, b.colorAt? i = some c
  bit : ∀ i < b.width.toNat * b.height.toNat, ∃ lit, b.bitAt? i = some lit
  /-- A row looks at pixels of the picture only. -/
  row : ∀ y < b.height.toNat, ∀ i ∈ List.range' (y * b.width.toNat) b.width.toNat,
    i < b.width.toNat * b.height.toNat
  rowColors : ∀ y < b.height.toNat, ∃ colors, b.row? colorAt? y = some colors ∧
    (splitRows b.width.toNat b.height.toNat b.colors)[y]? = some colors
  rowBits : ∀ y < b.height.toNat, ∃ bits, b.row? bitAt? y = some bits ∧
    (splitRows b.width.toNat b.height.toNat b.bits)[y]? = some bits
  /-- The number of a pixel has 64 bits. -/
  counted : b.width.toNat * b.height.toNat < 2 ^ 64

/-- What was checked when a picture was built is enough for each later look at it. -/
theorem reachable (b : PixelBuffer) : b.Reachable where
  color := by
    intro i hi
    exact b.exists_colorAt? (by rwa [pixelCount, b.size_eq])
  bit := by
    intro i hi
    exact b.exists_bitAt? (by rwa [pixelCount, b.size_eq])
  row := fun _ hy _ hi => lt_of_mem_row hy hi
  rowColors := by
    intro y hy
    refine ⟨_, ?_, getElem?_splitRows hy b.colors⟩
    rw [row?_eq (fun i => (b.getElem?_colors i).symm) b.length_colors hy, getElem?_splitRows hy]
  rowBits := by
    intro y hy
    refine ⟨_, ?_, getElem?_splitRows hy b.bits⟩
    rw [row?_eq (fun i => (b.getElem?_bits i).symm) b.length_bits hy, getElem?_splitRows hy]
  counted := (mul_lt_countLimit b.width b.height).trans (by decide)

/-! ## The constructors -/

variable {width height : UInt32} {data : PixelData} {bytes : List UInt8} {b : PixelBuffer}

/-- **What is built from data** has these dimensions and this data. -/
lemma ofData_eq_ok_iff :
    ofData width height data = .ok b ↔ b.width = width ∧ b.height = height ∧ b.data = data := by
  constructor
  · intro h
    obtain ⟨hsize, hbad, rfl⟩ := exists_of_ofData h
    exact ⟨rfl, rfl, rfl⟩
  · rintro ⟨rfl, rfl, rfl⟩
    exact b.ofData_self

/-- **Data that makes up a picture**: one value for each pixel, and no bad index. -/
lemma exists_ofData_iff :
    (∃ b, ofData width height data = .ok b) ↔
      data.size = width.toNat * height.toNat ∧ data.InRange := by
  rw [← data.badIndex?_eq_none_iff]
  constructor
  · rintro ⟨b, h⟩
    obtain ⟨hsize, hbad, -⟩ := exists_of_ofData h
    exact ⟨hsize, hbad⟩
  · rintro ⟨hsize, hbad⟩
    exact ⟨_, ofData_self ⟨width, height, data, hsize, hbad⟩⟩

lemma ofData_of_size_ne (hsize : data.size ≠ width.toNat * height.toNat) :
    ofData width height data = .error (.pixelCount (width.toNat * height.toNat) data.size) := by
  rw [ofData, dif_neg (by rwa [expectedCount_one]), expectedCount_one]

/-- Of data of the right size the first bad index is reported. -/
lemma ofData_of_badIndex? {k : UInt8} {paletteSize : ℕ}
    (hsize : data.size = width.toNat * height.toNat)
    (hbad : data.badIndex? = some (k, paletteSize)) :
    ofData width height data = .error (.sourceIndexOutOfRange k paletteSize) := by
  rw [ofData, dif_pos (by rw [hsize, expectedCount_one])]
  split
  · next hfound =>
      rw [hbad, Option.some.injEq, Prod.mk.injEq] at hfound
      obtain ⟨rfl, rfl⟩ := hfound
      rfl
  · next hnone => exact absurd (hbad.symm.trans hnone) (by simp)

/-- **The count of bytes is exact** as long as there are fewer of them than the largest number.  A
size that is cut down to that number is not met by any of them. -/
lemma length_eq_expectedCount_iff (hbytes : bytes.length ≤ 2 ^ 63 - 1) :
    bytes.length = expectedCount width height 4
      ↔ bytes.length = 4 * width.toNat * height.toNat := by
  have hlimit : 2 ^ 63 - 1 < countLimit := by decide
  rw [expectedCount, Nat.mul_assoc 4, Nat.mul_comm 4]
  omega

/-- **Bytes that make up a picture**: four for each pixel. -/
lemma exists_ofBytes_iff (hbytes : bytes.length ≤ 2 ^ 63 - 1) :
    (∃ b, ofBytes width height bytes = .ok b) ↔
      bytes.length = 4 * width.toNat * height.toNat := by
  rw [← length_eq_expectedCount_iff hbytes]
  constructor
  · rintro ⟨b, h⟩
    rw [ofBytes] at h
    split_ifs at h with hlength
    exact hlength
  · intro hlength
    have hexact := (length_eq_expectedCount_iff hbytes).1 hlength
    rw [ofBytes, if_pos hlength, ofColors, exists_ofData_iff]
    refine ⟨Color.length_ofBytes ?_, trivial⟩
    rw [hexact, Nat.mul_assoc, Nat.mul_comm]

lemma ofBytes_of_length_ne (hbytes : bytes.length ≤ 2 ^ 63 - 1)
    (hlength : bytes.length ≠ 4 * width.toNat * height.toNat) :
    ofBytes width height bytes
      = .error (.pixelCount (min (4 * width.toNat * height.toNat) (2 ^ 64 - 1)) bytes.length) := by
  rw [Ne, ← length_eq_expectedCount_iff hbytes] at hlength
  rw [ofBytes, if_neg hlength, expectedCount, Nat.mul_assoc 4, Nat.mul_comm 4]
  rfl

/-- **A pixel is four bytes**, those that begin four times as far. -/
lemma colorAt?_of_ofBytes (h : ofBytes width height bytes = .ok b) {i : ℕ}
    (hi : i < width.toNat * height.toNat) :
    ∃ c, b.colorAt? i = some c ∧ (bytes.drop (4 * i)).take 4 = c.toBytes := by
  obtain ⟨rfl, rfl, hcolors⟩ := exists_of_ofBytes h
  obtain ⟨c, hc⟩ := b.reachable.color i hi
  refine ⟨c, hc, Color.take_drop_of_ofBytes ?_⟩
  rw [← hcolors, b.getElem?_colors, hc]

/-- **Building pictures of given dimensions.** -/
structure Construction (width height : UInt32) : Prop where
  /-- Data makes up a picture if it has a value for each pixel and its indices are good. -/
  data_ok_iff : ∀ data : PixelData, (∃ b, ofData width height data = .ok b) ↔
    data.size = width.toNat * height.toNat ∧ data.InRange
  /-- The picture is the data. -/
  data_ok : ∀ (data : PixelData) (b : PixelBuffer), ofData width height data = .ok b ↔
    b.width = width ∧ b.height = height ∧ b.data = data
  /-- The number of values is looked at first, whatever the indices are. -/
  data_size : ∀ data : PixelData, data.size ≠ width.toNat * height.toNat →
    ofData width height data
      = .error (.pixelCount (width.toNat * height.toNat) data.size)
  /-- Then the first bad index is reported. -/
  data_index : ∀ (before : List UInt8) (k : UInt8) (after : List UInt8) (palette : List Color),
    (before ++ k :: after).length = width.toNat * height.toNat →
    (∀ j ∈ before, j.toNat < palette.length) → palette.length ≤ k.toNat →
    ofData width height (.indexed (before ++ k :: after) palette)
      = .error (.sourceIndexOutOfRange k palette.length)
  /-- Bytes make up a picture if there are four for each pixel, however many that are. -/
  bytes_ok_iff : ∀ bytes : List UInt8, bytes.length ≤ 2 ^ 63 - 1 →
    ((∃ b, ofBytes width height bytes = .ok b) ↔
      bytes.length = 4 * width.toNat * height.toNat)
  bytes_size : ∀ bytes : List UInt8, bytes.length ≤ 2 ^ 63 - 1 →
    bytes.length ≠ 4 * width.toNat * height.toNat →
    ofBytes width height bytes
      = .error (.pixelCount (min (4 * width.toNat * height.toNat) (2 ^ 64 - 1)) bytes.length)
  bytes_pixel : ∀ (bytes : List UInt8) (b : PixelBuffer), ofBytes width height bytes = .ok b →
    ∀ i < width.toNat * height.toNat,
      ∃ c, b.colorAt? i = some c ∧ (bytes.drop (4 * i)).take 4 = c.toBytes
  /-- A picture that was built has the dimensions, and each of its pixels is there. -/
  reachable : ∀ b : PixelBuffer,
    (∃ data, ofData width height data = .ok b) ∨ (∃ bytes, ofBytes width height bytes = .ok b) →
    b.width = width ∧ b.height = height ∧ b.Reachable

/-- **The checks of the constructors are exact**, and they are all that is needed. -/
theorem checked_construction (width height : UInt32) : Construction width height where
  data_ok_iff := fun _ => exists_ofData_iff
  data_ok := fun _ _ => ofData_eq_ok_iff
  data_size := fun _ hsize => ofData_of_size_ne hsize
  data_index := by
    intro before k after palette hsize hbefore hk
    exact ofData_of_badIndex? hsize (PixelData.badIndex?_append hbefore hk)
  bytes_ok_iff := fun _ hbytes => exists_ofBytes_iff hbytes
  bytes_size := fun _ hbytes hlength => ofBytes_of_length_ne hbytes hlength
  bytes_pixel := fun _ _ h _ hi => colorAt?_of_ofBytes h hi
  reachable := by
    rintro b (⟨data, h⟩ | ⟨bytes, h⟩)
    · obtain ⟨hwidth, hheight, -⟩ := ofData_eq_ok_iff.1 h
      exact ⟨hwidth, hheight, b.reachable⟩
    · obtain ⟨hwidth, hheight, -⟩ := exists_of_ofBytes h
      exact ⟨hwidth, hheight, b.reachable⟩

end PixelBuffer

end WatchBitmap
