import Mathlib.Tactic.Common
import WatchBitmap.Proofs.Reading

/-!
# A blob gives its picture back

Reading a blob and asking for its picture undoes the encoding, up to how a picture stores its
pixels: an indexed blob gives the colors, a monochrome one the bits.

* `colors_of_encode_indexed` — **indexed encoding loses nothing.**
* `bits_of_encode_monochrome` — **monochrome encoding always succeeds and keeps the bits.**
-/

namespace WatchBitmap

namespace PixelBuffer

lemma colorAt?_asColors (b : PixelBuffer) (i : ℕ) : b.asColors.colorAt? i = b.colorAt? i := by
  rw [← b.asColors.getElem?_colors, ← b.getElem?_colors]
  rfl

lemma bitAt?_asBits (b : PixelBuffer) (i : ℕ) : b.asBits.bitAt? i = b.bitAt? i := by
  rw [← b.asBits.getElem?_bits, ← b.getElem?_bits]
  rfl

/-- A picture that stores bits is not changed by storing its bits. -/
lemma asBits_eq_self {b : PixelBuffer} {bits : List Bool} (h : b.data = .mono bits) :
    b.asBits = b := by
  obtain ⟨width, height, data, hsize, hbad⟩ := b
  subst h
  rfl

end PixelBuffer

variable {b : PixelBuffer} {options : EncodeOptions} {blob : List UInt8}

/-- **Indexed encoding loses nothing.**  The blob of a picture in an indexed format can be read,
and what is read is a picture of the same size with the same color at every position, all four
channels of it.  Key, compression and the way the picture stores its pixels make no difference. -/
theorem colors_of_encode_indexed (hindexed : options.format ≠ .fixed .monochrome)
    (h : encode b options = .ok blob) :
    ∃ image picture, Image.read blob = .ok image ∧ image.toPixelBuffer = .ok picture ∧
      picture.width = b.width ∧ picture.height = b.height ∧
      ∀ i < b.pixelCount, ∃ c, b.colorAt? i = some c ∧ picture.colorAt? i = some c := by
  obtain ⟨key, format, hdim, -, hsettles, rfl⟩ := encode_eq_ok h
  refine ⟨b.imageFor key format options.compression, b.asColors,
    Image.read_encodingFor hdim hsettles _,
    Image.toPixelBuffer_imageFor_of_isIndexed hsettles (hsettles.isIndexed hindexed) _,
    rfl, rfl, ?_⟩
  intro i hi
  obtain ⟨c, hc⟩ := b.exists_colorAt? hi
  exact ⟨c, hc, by rw [b.colorAt?_asColors, hc]⟩

/-- Three colors, one of them the key's and one half transparent, in rows that end inside a
byte. -/
def keyedPicture : PixelBuffer where
  width := 3
  height := 2
  data := .indexed [0, 1, 2, 2, 1, 0] [⟨255, 0, 0, 255⟩, Color.black, ⟨0, 255, 0, 128⟩]
  size_eq := rfl
  badIndex_eq := rfl

/-- The compressed blob of `keyedPicture`: each of its rows is one literal of one byte. -/
def keyedBlob : List UInt8 :=
  [1, 0, 1, 3, 3, 0, 0, 0, 2, 0, 0, 0, 1, 0, 0, 0, 3, 0, 0, 0, 0, 72, 0, 132,
    0, 0, 0, 255, 255, 0, 0, 255, 0, 255, 0, 128]

theorem colors_of_encode_keyedPicture :
    encode keyedPicture ⟨.smallestIndexed, some "BLACK", .rows⟩ = .ok keyedBlob ∧
    ∃ image picture, Image.read keyedBlob = .ok image ∧ image.toPixelBuffer = .ok picture ∧
      picture.width = keyedPicture.width ∧ picture.height = keyedPicture.height ∧
      ∀ i < keyedPicture.pixelCount, ∃ c,
        keyedPicture.colorAt? i = some c ∧ picture.colorAt? i = some c := by
  have hencode : encode keyedPicture ⟨.smallestIndexed, some "BLACK", .rows⟩ = .ok keyedBlob := by
    decide +kernel
  exact ⟨hencode, colors_of_encode_indexed (by decide) hencode⟩

/-- **Monochrome encoding always succeeds and keeps the bits.**  Whatever a picture with pixels
stores, whatever key is asked for and however the rows are stored, there is a blob; it has no
palette, and its picture consists of the bits.  A picture of bits comes back as it was. -/
theorem bits_of_encode_monochrome (b : PixelBuffer) (hpixels : b.isEmpty = false)
    (selector : Option String)
    (hselector : selector = none ∨ selector = some "WHITE" ∨ selector = some "BLACK")
    (compression : Compression) :
    ∃ blob image picture,
      encode b ⟨.fixed .monochrome, selector, compression⟩ = .ok blob ∧
      Image.read blob = .ok image ∧ image.palette = [] ∧
      image.toPixelBuffer = .ok picture ∧
      picture.width = b.width ∧ picture.height = b.height ∧
      (∃ bits, picture.data = .mono bits) ∧
      (∀ i < b.pixelCount, ∃ bit, b.bitAt? i = some bit ∧ picture.bitAt? i = some bit) ∧
      ∀ bits, b.data = .mono bits → picture = b := by
  have hdim : ¬ (b.width = 0 ∨ b.height = 0) := by
    rw [← b.isEmpty_iff, hpixels]
    exact Bool.false_ne_true
  obtain ⟨key, rfl⟩ : ∃ key : Option ColorKey, selector = key.map ColorKey.name := by
    rcases hselector with rfl | rfl | rfl
    · exact ⟨none, rfl⟩
    · exact ⟨some .white, rfl⟩
    · exact ⟨some .black, rfl⟩
  refine ⟨(b.encodingFor key .monochrome compression).toBytes,
    b.imageFor key .monochrome compression, b.asBits, encode_of_settles hdim rfl .monochrome,
    Image.read_encodingFor hdim .monochrome _, rfl,
    Image.toPixelBuffer_imageFor_monochrome b key compression, rfl, rfl, ⟨b.bits, rfl⟩, ?_, ?_⟩
  · intro i hi
    obtain ⟨bit, hbit⟩ := b.exists_bitAt? hi
    exact ⟨bit, hbit, by rw [b.bitAt?_asBits, hbit]⟩
  · intro bits hbits
    exact PixelBuffer.asBits_eq_self hbits

/-- A row of bits that ends inside its second byte, under a white key and compressed. -/
theorem bits_of_encode_row :
    let b : PixelBuffer :=
      ⟨9, 1, .mono [true, false, true, true, false, false, false, true, true], rfl, rfl⟩
    b.isEmpty = false ∧ ∃ blob image picture,
      encode b ⟨.fixed .monochrome, some "WHITE", .rows⟩ = .ok blob ∧
      Image.read blob = .ok image ∧ image.palette = [] ∧
      image.toPixelBuffer = .ok picture ∧
      picture.width = b.width ∧ picture.height = b.height ∧
      (∃ bits, picture.data = .mono bits) ∧
      (∀ i < b.pixelCount, ∃ bit, b.bitAt? i = some bit ∧ picture.bitAt? i = some bit) ∧
      ∀ bits, b.data = .mono bits → picture = b :=
  ⟨by decide, bits_of_encode_monochrome _ (by decide) _ (Or.inr (Or.inl rfl)) _⟩

end WatchBitmap
