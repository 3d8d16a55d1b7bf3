import Mathlib.Data.List.Basic
import Mathlib.Tactic.Common
import WatchBitmap.Proofs.Reading

/-!
# A blob does not tell how the pixels were stored

A picture can be stored as bits, as indices into a palette of its own, or as colors.  Written out in
colors (`PixelBuffer.asColors`) it has a normal form: what is left of it are the dimensions and the
color at every position.  The encoder makes the same of a picture and of its normal form.  For an
indexed format that is plain, since nothing but colors is asked for.  For the monochrome one it
comes down to the rule for lit colors: white is lit and black is not, so bits that are stored and
bits that are worked out from the colors agree.

* `PixelBuffer.SamePicture` — the same dimensions and the same colors; `samePicture_iff` says that
  it is the same normal form.
* `encoding_asColors` — the encoder does not see the difference to the normal form.
* `encode_eq_of_samePicture` — **a blob, or the reason for having none, depends on the picture and
  on the options only.**
-/

namespace WatchBitmap

namespace PixelBuffer

/-- Pictures of the same size with the same color at every position, all four channels of it. -/
structure SamePicture (b b' : PixelBuffer) : Prop where
  width : b.width = b'.width
  height : b.height = b'.height
  color : ∀ i < b.pixelCount, b.colorAt? i = b'.colorAt? i

variable {b b' : PixelBuffer}

lemma SamePicture.colors_eq (h : b.SamePicture b') : b.colors = b'.colors := by
  have hlength : b.colors.length = b'.colors.length := by
    rw [b.length_colors, b'.length_colors, h.width, h.height]
  refine List.ext_getElem? fun i => ?_
  rcases Nat.lt_or_ge i b.pixelCount with hi | hi
  · rw [b.getElem?_colors, b'.getElem?_colors, h.color i hi]
  · rw [pixelCount, b.size_eq, ← b.length_colors] at hi
    rw [List.getElem?_eq_none hi, List.getElem?_eq_none (hlength ▸ hi)]

/-- **The colors written out are a normal form.**  Two pictures have it in common exactly if they
are the same picture. -/
theorem samePicture_iff : b.SamePicture b' ↔ b.asColors = b'.asColors := by
  constructor
  · intro h
    have hcolors := h.colors_eq
    obtain ⟨hwidth, hheight, -⟩ := h
    simp only [asColors, hwidth, hheight, hcolors]
  · intro h
    have hwidth : b.asColors.width = b'.asColors.width := congrArg _ h
    have hheight : b.asColors.height = b'.asColors.height := congrArg _ h
    have hcolors : b.asColors.colors = b'.asColors.colors := congrArg _ h
    refine ⟨hwidth, hheight, ?_⟩
    intro i _
    rw [← b.getElem?_colors, ← b'.getElem?_colors]
    exact congrArg (·[i]?) hcolors

/-- Bits that are worked out from the colors are the bits of the picture, also of one that stores
bits. -/
lemma bits_asColors (b : PixelBuffer) : b.asColors.bits = b.bits :=
  (PixelData.bits_eq_map_isLit b.data).symm

end PixelBuffer

lemma pixelValues_asColors (b : PixelBuffer) (palette : Option Palette) :
    pixelValues b.asColors palette = pixelValues b palette := by
  cases palette with
  | none => rw [pixelValues, pixelValues, b.bits_asColors]
  | some palette => rfl

/-- **The encoder makes the same of a picture and of its normal form**, down to the parts of the
blob. -/
theorem encoding_asColors (b : PixelBuffer) (options : EncodeOptions) :
    encoding b.asColors options = encoding b options := by
  simp only [encoding, pixelValues_asColors]
  rfl

/-- **A blob depends on the picture only.**  Two buffers with the same picture have the same blob,
or are refused for the same reason, whatever is asked for. -/
theorem encode_eq_of_samePicture {b b' : PixelBuffer} (h : b.SamePicture b')
    (options : EncodeOptions) : encode b options = encode b' options := by
  have hnormal := PixelBuffer.samePicture_iff.1 h
  calc encode b options
      = (encoding b.asColors options).map Encoding.toBytes := by rw [encoding_asColors, encode]
    _ = (encoding b'.asColors options).map Encoding.toBytes := by rw [hnormal]
    _ = encode b' options := by rw [encoding_asColors, encode]

/-- Black and white, stored as bits. -/
def checkedBits : PixelBuffer where
  width := 3
  height := 2
  data := .mono [true, false, true, false, true, false]
  size_eq := rfl
  badIndex_eq := rfl

/-- The picture of `checkedBits` over a palette in which white is there twice and red
is not used. -/
def checkedIndices : PixelBuffer where
  width := 3
  height := 2
  data := .indexed [3, 1, 0, 1, 0, 1] [Color.white, Color.black, ⟨255, 0, 0, 255⟩, Color.white]
  size_eq := rfl
  badIndex_eq := rfl

theorem encode_checkedBits :
    checkedBits.SamePicture checkedIndices ∧
      encode checkedBits ⟨.fixed .monochrome, some "BLACK", .rows⟩
        = encode checkedIndices ⟨.fixed .monochrome, some "BLACK", .rows⟩ := by
  have hsame : checkedBits.SamePicture checkedIndices := ⟨rfl, rfl, by decide⟩
  exact ⟨hsame, encode_eq_of_samePicture hsame _⟩

end WatchBitmap
