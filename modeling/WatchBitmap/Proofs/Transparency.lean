import Mathlib.Data.List.Basic
import Mathlib.Tactic.Common
import WatchBitmap.Proofs.Layout
import WatchBitmap.Proofs.Reading
import WatchBitmap.Proofs.RoundTrip

/-!
# Transparent pixels

A device that draws an image with a color key leaves out the pixels whose value is zero.  That these
are the pixels of the key's color, and no others, depends on the palette alone: the key is entered
first, before any pixel is looked at, so its color is there once and in front, and each other entry
is there because a pixel has its color.

* `Image.Keyed` — an image in which a key stands for transparency, and `Image.Unkeyed`, one in which
  nothing does.
* `PixelBuffer.keyed_imageFor`, `PixelBuffer.unkeyed_imageFor` — the images of the encoder's blobs.
* `transparency_of_encode` — **what is transparent in a blob** are the pixels of the key's color.
-/

namespace WatchBitmap

/-- **An image in which a key stands for transparency**, with the values of a picture's pixels.  The
key's color is the first palette entry and no other, a pixel has the value zero exactly if it has
that color, and behind the first there is no entry without a pixel.  Colors are the same if all four
channels are. -/
structure Image.Keyed (image : Image) (b : PixelBuffer) (values : List UInt8) (key : ColorKey) :
    Prop where
  colorKey : image.header.colorKey = some key
  front : image.palette[0]? = some key.color
  once : ∀ k, k ≠ 0 → image.palette[k]? ≠ some key.color
  zero_iff : ∀ i < b.pixelCount, ∃ c value,
    b.colorAt? i = some c ∧ values[i]? = some value ∧ (value = 0 ↔ c = key.color)
  used : ∀ k c, k ≠ 0 → image.palette[k]? = some c → ∃ i < b.pixelCount, b.colorAt? i = some c

/-- **An image in which nothing is transparent.**  Neither flag of a key is set, and there is no
palette entry without a pixel. -/
structure Image.Unkeyed (image : Image) (b : PixelBuffer) : Prop where
  transparent : image.header.isTransparent = false
  whiteKey : image.header.flags &&& whiteKeyFlag = 0
  used : ∀ c ∈ image.palette, ∃ i < b.pixelCount, b.colorAt? i = some c

namespace PixelBuffer

variable {b : PixelBuffer} {choice : FormatChoice} {key : Option ColorKey} {format : Format}

lemma exists_pixel_of_mem_colors {c : Color} (hc : c ∈ b.colors) :
    ∃ i < b.pixelCount, b.colorAt? i = some c := by
  obtain ⟨i, hi⟩ := List.mem_iff_getElem?.1 hc
  refine ⟨i, ?_, by rw [← b.getElem?_colors, hi]⟩
  rw [pixelCount, b.size_eq, ← b.length_colors]
  exact (List.getElem?_eq_some_iff.1 hi).1

/-- A color is listed because it is the key's or because a pixel has it. -/
lemma mem_keyColors_or_exists_pixel {c : Color} (hc : c ∈ firstSeen key b.colors) :
    c ∈ keyColors key ∨ ∃ i < b.pixelCount, b.colorAt? i = some c :=
  (List.mem_append.1 (WatchBitmap.mem_firstSeen.1 hc)).imp_right exists_pixel_of_mem_colors

/-- **Zero is the key's value**, for no index wraps around to it. -/
lemma indexFor_eq_zero_iff {key : ColorKey}
    (hfits : distinctColors (some key) b.colors ≤ Format.indexed8.capacity) {c : Color}
    (hc : c ∈ b.colors) : b.indexFor (some key) c = 0 ↔ c = key.color := by
  rw [← idxOf_firstSeen_eq_zero_iff key b.colors, ← b.toNat_indexFor hfits hc]
  exact UInt8.toNat_inj.symm

/-- **Under a key** the image of a blob is keyed. -/
lemma keyed_imageFor {key : ColorKey}
    (hsettles : choice.Settles (distinctColors (some key) b.colors) format)
    (hindexed : format.isIndexed = true) (compression : Compression) :
    (b.imageFor (some key) format compression).Keyed b (b.valuesFor (some key) format) key := by
  have hpalette := b.palette_imageFor (some key) compression hindexed
  have hplace : ∀ k, (b.imageFor (some key) format compression).palette[k]? = some key.color
      ↔ k = 0 := by
    rw [hpalette]
    exact getElem?_firstSeen_eq_color_iff key b.colors
  refine {
    colorKey := Header.colorKey_ofPicture _ _ _ _ _ _
    front := (hplace 0).2 rfl
    once := fun k hk hentry => hk ((hplace k).1 hentry)
    zero_iff := ?zero_iff
    used := ?used }
  case zero_iff =>
    intro i hi
    obtain ⟨c, hc⟩ := b.exists_colorAt? hi
    exact ⟨c, _, hc, getElem?_valuesFor_of_isIndexed hindexed hc,
      indexFor_eq_zero_iff (hsettles.le_widest hindexed) (mem_colors_of_colorAt? hc)⟩
  case used =>
    intro k c hk hentry
    have hmem : c ∈ firstSeen (some key) b.colors := hpalette ▸ List.mem_of_getElem? hentry
    rcases mem_keyColors_or_exists_pixel hmem with hc | hpixel
    · -- the key's color is in front, and this entry is not
      rw [List.mem_singleton.1 hc] at hentry
      exact absurd ((hplace k).1 hentry) hk
    · exact hpixel

/-- **Without a key** it is not. -/
lemma unkeyed_imageFor (b : PixelBuffer) (hindexed : format.isIndexed = true)
    (compression : Compression) : (b.imageFor none format compression).Unkeyed b where
  transparent := Header.isTransparent_ofPicture _ _ _ _ _ _
  whiteKey := Header.whiteKey_ofPicture _ _ _ _ _ _
  used := by
    intro c hc
    rw [b.palette_imageFor none compression hindexed] at hc
    exact (mem_keyColors_or_exists_pixel hc).resolve_left List.not_mem_nil

end PixelBuffer

/-- **What is transparent in a blob.**  An indexed blob that was encoded with a key is keyed: its
zeros are the pixels of the key's color, wherever that color comes first in the picture, if at all.
One that was encoded without a key has nothing transparent.  In both no color is in the palette
twice. -/
theorem transparency_of_encode {b : PixelBuffer} {options : EncodeOptions} {blob : List UInt8}
    (hindexed : options.format ≠ .fixed .monochrome) (h : encode b options = .ok blob) :
    ∃ image values, Image.read blob = .ok image ∧ image.pixelValues? = some values ∧
      image.palette.Nodup ∧
      (∀ key : ColorKey, options.colorKey = some key.name → image.Keyed b values key) ∧
      (options.colorKey = none → image.Unkeyed b) := by
  obtain ⟨key, format, hdim, hkey, hsettles, rfl⟩ := encode_eq_ok h
  have hformat := hsettles.isIndexed hindexed
  refine ⟨b.imageFor key format options.compression, b.valuesFor key format,
    Image.read_encodingFor hdim hsettles _, Image.pixelValues?_imageFor hsettles _, ?_, ?_, ?_⟩
  · rw [b.palette_imageFor key _ hformat]
    exact nodup_firstSeen key b.colors
  · intro key' hkey'
    obtain rfl : key = some key' := map_name_injective (hkey.symm.trans hkey')
    exact PixelBuffer.keyed_imageFor hsettles hformat _
  · intro hnone
    obtain rfl : key = none := map_name_injective (hkey.symm.trans hnone)
    exact b.unkeyed_imageFor hformat _

/-- White between colors that are white but for their alpha. -/
def almostWhite : PixelBuffer where
  width := 3
  height := 2
  data := .rgba [⟨255, 255, 255, 254⟩, Color.white, ⟨255, 0, 0, 255⟩,
    ⟨255, 255, 255, 0⟩, ⟨255, 0, 0, 255⟩, Color.white]
  size_eq := rfl
  badIndex_eq := rfl

/-- The blob of `almostWhite` under a white key. -/
def almostWhiteBlob : List UInt8 :=
  [1, 0, 1, 5, 3, 0, 0, 0, 2, 0, 0, 0, 1, 0, 0, 0, 4, 0, 0, 0, 0x48, 0xe0,
    255, 255, 255, 255, 255, 255, 255, 254, 255, 0, 0, 255, 255, 255, 255, 0]

theorem transparency_of_encode_almostWhite :
    encode almostWhite ⟨.smallestIndexed, some "WHITE", .none⟩ = .ok almostWhiteBlob ∧
    ∃ image values, Image.read almostWhiteBlob = .ok image ∧ image.pixelValues? = some values ∧
      image.palette.Nodup ∧
      (∀ key : ColorKey, some "WHITE" = some key.name → image.Keyed almostWhite values key) ∧
      (some "WHITE" = none → image.Unkeyed almostWhite) := by
  have hencode : encode almostWhite ⟨.smallestIndexed, some "WHITE", .none⟩
      = .ok almostWhiteBlob := rfl
  exact ⟨hencode, transparency_of_encode (by decide) hencode⟩

end WatchBitmap
