import Mathlib.Data.List.Basic
import Mathlib.Tactic.Common
import WatchBitmap.Proofs.ByteArithmetic
import WatchBitmap.Proofs.Reading

/-!
# The encoder's outcome from the side of its results

The encoder's outcome is one of a few cases (`Outcome`).  Here it is asked the other way around, for
each result by itself: when it comes about.  There is nothing else that can happen on the way to it,
because whatever the encoder relies on holds: every pixel is there, every row of values is packed
into the bytes that the format declares, and no operation on bytes leaves its range.

* `Outcome.eq_emptyBuffer_iff`, `Outcome.eq_invalidSelector_iff`, `Outcome.eq_paletteOverflow_iff`,
  `Outcome.eq_ok_iff` — when each result comes about.
* `PacksInto`, `packsInto_of_pixelValues` — what the packer is handed, and what it makes of it.
* `encode_eq_iff` — **all of it together.**
-/

namespace WatchBitmap

variable {b : PixelBuffer} {options : EncodeOptions}

/-! ## Results -/

variable {result : Except EncodeError (List UInt8)}

lemma Outcome.eq_emptyBuffer_iff (hout : Outcome b options result) (w h : UInt32) :
    result = .error (.emptyBuffer w h)
      ↔ (b.width = 0 ∨ b.height = 0) ∧ w = b.width ∧ h = b.height := by
  constructor
  · rintro rfl
    cases hout with
    | empty hempty => exact ⟨hempty, rfl, rfl⟩
  · rintro ⟨hempty, rfl, rfl⟩
    cases hout with
    | empty _ => rfl
    | badSelector hdim => exact absurd hempty hdim
    | overflow hdim => exact absurd hempty hdim
    | encoded hdim => exact absurd hempty hdim

lemma Outcome.eq_invalidSelector_iff (hout : Outcome b options result) (s : String) :
    result = .error (.invalidSelector s)
      ↔ ¬ (b.width = 0 ∨ b.height = 0) ∧ options.colorKey = some s ∧
        s ≠ ColorKey.white.name ∧ s ≠ ColorKey.black.name := by
  constructor
  · rintro rfl
    cases hout with
    | badSelector hdim hselector hwhite hblack => exact ⟨hdim, hselector, hwhite, hblack⟩
  · rintro ⟨hdim, hs, hwhite, hblack⟩
    cases hout with
    | empty hempty => exact absurd hempty hdim
    | badSelector _ hselector =>
        rw [hs, Option.some.injEq] at hselector
        rw [hselector]
    | overflow _ hkey => exact absurd (hs.symm.trans hkey) (map_name_ne hwhite hblack _)
    | encoded _ hkey => exact absurd (hs.symm.trans hkey) (map_name_ne hwhite hblack _)

lemma Outcome.eq_paletteOverflow_iff (hout : Outcome b options result) (colors capacity : ℕ) :
    result = .error (.paletteOverflow colors capacity)
      ↔ ¬ (b.width = 0 ∨ b.height = 0) ∧ ∃ key : Option ColorKey,
        options.colorKey = key.map ColorKey.name ∧
        options.format.paletteCapacity? = some capacity ∧
        capacity < distinctColors key b.colors ∧ colors = capacity + 1 := by
  constructor
  · rintro rfl
    cases hout with
    | overflow hdim hkey hcapacity hover => exact ⟨hdim, _, hkey, hcapacity, hover, rfl⟩
  · rintro ⟨hdim, key, hkey, hcapacity, hover, rfl⟩
    cases hout with
    | empty hempty => exact absurd hempty hdim
    | badSelector _ hs hwhite hblack =>
        exact absurd (hs.symm.trans hkey) (map_name_ne hwhite hblack _)
    | overflow _ _ hcapacity' _ =>
        rw [hcapacity, Option.some.injEq] at hcapacity'
        rw [hcapacity']
    | encoded _ hkey' hsettles =>
        have hsame := map_name_injective (hkey.symm.trans hkey')
        subst hsame
        exact absurd hover (Nat.not_lt.2 (hsettles.le_of_paletteCapacity? hcapacity))

lemma Outcome.eq_ok_iff (hout : Outcome b options result) :
    (∃ blob, result = .ok blob)
      ↔ ¬ (b.width = 0 ∨ b.height = 0) ∧ ∃ key : Option ColorKey,
        options.colorKey = key.map ColorKey.name ∧
        ∀ capacity, options.format.paletteCapacity? = some capacity →
          distinctColors key b.colors ≤ capacity := by
  constructor
  · rintro ⟨blob, rfl⟩
    cases hout with
    | encoded hdim hkey hsettles =>
        exact ⟨hdim, _, hkey, fun _ hcapacity => hsettles.le_of_paletteCapacity? hcapacity⟩
  · rintro ⟨hdim, key, hkey, hfits⟩
    cases hout with
    | empty hempty => exact absurd hempty hdim
    | badSelector _ hs hwhite hblack =>
        exact absurd (hs.symm.trans hkey) (map_name_ne hwhite hblack _)
    | overflow _ hkey' hcapacity hover =>
        have hsame := map_name_injective (hkey.symm.trans hkey')
        subst hsame
        exact absurd hover (Nat.not_lt.2 (hfits _ hcapacity))
    | encoded => exact ⟨_, rfl⟩

/-! ## Rows on the way to the packer -/

/-- A row of values that is packed without a fault: it takes as many bytes as the format declares,
and every operation on bytes that packs it is defined. -/
structure PacksInto (format : Format) (width : UInt32) (row : List UInt8) : Prop where
  length : (BitPacking.packRow format.bitsPerPixel row).length = (format.rowStride width).toNat
  defined : BitPacking.packRowBytes? (.ofNat format.bitsPerPixel) row
    = some (BitPacking.packRow format.bitsPerPixel row)

/-- There is one value for each pixel, with a palette or without. -/
lemma length_of_pixelValues {palette : Option Palette} {values : List UInt8}
    (h : pixelValues b palette = .ok values) :
    values.length = b.width.toNat * b.height.toNat := by
  cases palette with
  | none =>
      obtain rfl := Except.ok.inj h
      rw [List.length_map, b.length_bits]
  | some palette => rw [length_of_mapM_eq_ok h, b.length_colors]

/-- **Each row of a picture's values is packed without a fault.** -/
lemma packsInto_of_pixelValues {palette : Option Palette} {values row : List UInt8}
    (hvalues : pixelValues b palette = .ok values) (format : Format)
    (hrow : row ∈ splitRows b.width.toNat b.height.toNat values) :
    PacksInto format b.width row where
  length := by
    rw [format.rowStride_toNat]
    exact length_packRow_of_mem_splitRows format (length_of_pixelValues hvalues) hrow
  defined := BitPacking.packRowBytes?_eq format.bitsPerPixel_dvd row

/-! ## All of it -/

/-- **The exact outcome of the encoder.**  A picture without pixels is refused first, then a
selector that names no key, then a palette that overflows, which is always reported as one color
more than there is room for.  Everything else is encoded: no color is without an index, and no
complaint is left that belongs to the construction of a picture.  On the way there every pixel that
is looked at is there, and every row of values is packed without a fault. -/
theorem encode_eq_iff (b : PixelBuffer) (options : EncodeOptions) :
    (∀ w h, encode b options = .error (.emptyBuffer w h)
      ↔ (b.width = 0 ∨ b.height = 0) ∧ w = b.width ∧ h = b.height) ∧
    (∀ s, encode b options = .error (.invalidSelector s)
      ↔ ¬ (b.width = 0 ∨ b.height = 0) ∧ options.colorKey = some s ∧ s ≠ "WHITE" ∧ s ≠ "BLACK") ∧
    (∀ colors capacity, encode b options = .error (.paletteOverflow colors capacity)
      ↔ ¬ (b.width = 0 ∨ b.height = 0) ∧ ∃ key : Option ColorKey,
        options.colorKey = key.map ColorKey.name ∧
        options.format.paletteCapacity? = some capacity ∧
        capacity < distinctColors key b.colors ∧ colors = capacity + 1) ∧
    ((∃ blob, encode b options = .ok blob)
      ↔ ¬ (b.width = 0 ∨ b.height = 0) ∧ ∃ key : Option ColorKey,
        options.colorKey = key.map ColorKey.name ∧
        ∀ capacity, options.format.paletteCapacity? = some capacity →
          distinctColors key b.colors ≤ capacity) ∧
    (∀ expected actual, encode b options ≠ .error (.pixelCount expected actual)) ∧
    (∀ index size, encode b options ≠ .error (.sourceIndexOutOfRange index size)) ∧
    (∀ c, encode b options ≠ .error (.unindexedColor c)) ∧
    (∀ x y, x < b.width.toNat → y < b.height.toNat → ∃ c bit,
      b.colorAt? (y * b.width.toNat + x) = some c ∧
      b.bitAt? (y * b.width.toNat + x) = some bit) ∧
    (∀ palette values, pixelValues b palette = .ok values → ∀ (format : Format),
      ∀ row ∈ splitRows b.width.toNat b.height.toNat values, PacksInto format b.width row) := by
  have hout := encode_outcome b options
  refine ⟨hout.eq_emptyBuffer_iff, hout.eq_invalidSelector_iff, hout.eq_paletteOverflow_iff,
    hout.eq_ok_iff, ?_, ?_, ?_, fun x y hx hy => b.exists_at hx hy,
    fun _ _ hvalues format _ hrow => packsInto_of_pixelValues hvalues format hrow⟩
  · intro expected actual h
    rw [h] at hout
    cases hout
  · intro index size h
    rw [h] at hout
    cases hout
  · intro c h
    rw [h] at hout
    cases hout

end WatchBitmap
