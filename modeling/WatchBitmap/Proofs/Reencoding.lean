import Mathlib.Data.List.Basic
import Mathlib.Tactic.Common
import WatchBitmap.Proofs.Consistency
import WatchBitmap.Proofs.Layout
import WatchBitmap.Proofs.Reading

/-!
# Encoding again what was read

A picture that was read from a blob can be encoded again.  If the blob is the encoder's own, it is
enough to ask for what its header says, and the same bytes come out.  If it was written by someone
else, with a palette that repeats colors or has some that no pixel uses, the encoder still has room
for what is left of it.

* `PixelBuffer.encodingFor_shownIn` — the encoder makes the same of a picture and of what its blob
  shows.
* `Header.options`, `encode_of_read_encode` — **the encoder's blobs are fixed points** of reading
  and encoding.
* `Image.Shows` — what a picture has of the image that it was read from.
* `normalized_of_read` — **any blob with a picture can be normalized**: the result shows the same
  picture, with no more palette entries and in no more bytes.
-/

namespace WatchBitmap

variable {b : PixelBuffer} {choice : FormatChoice} {key : Option ColorKey} {format : Format}

/-! ## What a blob shows -/

namespace PixelBuffer

lemma width_shownIn (b : PixelBuffer) (format : Format) : (b.shownIn format).width = b.width := by
  rw [shownIn]
  split_ifs <;> rfl

lemma height_shownIn (b : PixelBuffer) (format : Format) :
    (b.shownIn format).height = b.height := by
  rw [shownIn]
  split_ifs <;> rfl

lemma colors_shownIn (hindexed : format.isIndexed = true) :
    (b.shownIn format).colors = b.colors := by
  rw [shownIn, if_pos hindexed]
  rfl

/-- **The encoder makes the same of a picture and of what its blob shows**, for in an indexed format
it looks at nothing but colors, and in the monochrome one at nothing but bits. -/
lemma encodingFor_shownIn (b : PixelBuffer) (key : Option ColorKey) (format : Format)
    (compression : Compression) :
    (b.shownIn format).encodingFor key format compression
      = b.encodingFor key format compression := by
  rcases format.eq_monochrome_or_isIndexed with rfl | hindexed
  · rfl
  · have hshown : b.shownIn format = b.asColors := if_pos hindexed
    rw [hshown, encodingFor, encodingFor, paletteFor_of_isIndexed _ key hindexed,
      paletteFor_of_isIndexed _ key hindexed, valuesFor_of_isIndexed _ key hindexed,
      valuesFor_of_isIndexed _ key hindexed]
    rfl

end PixelBuffer

/-- A format that was settled on for a picture has room for what its blob shows. -/
lemma FormatChoice.Settles.shownIn
    (hsettles : choice.Settles (distinctColors key b.colors) format) :
    (FormatChoice.fixed format).Settles (distinctColors key (b.shownIn format).colors) format := by
  rcases format.eq_monochrome_or_isIndexed with rfl | hindexed
  · exact .monochrome
  · rw [PixelBuffer.colors_shownIn hindexed]
    exact .fixed hindexed (hsettles.le_capacity hindexed)

/-! ## The encoder's own blobs -/

/-- **What a header says about how its blob was written**, as options to write it again. -/
def Header.options (h : Header) : EncodeOptions where
  format := .fixed h.format
  colorKey := h.colorKey.map ColorKey.name
  compression := if h.isCompressed then .rows else .none

lemma PixelBuffer.options_imageFor (b : PixelBuffer) (key : Option ColorKey) (format : Format)
    (compression : Compression) :
    (b.imageFor key format compression).header.options
      = ⟨.fixed format, key.map ColorKey.name, compression⟩ := by
  have hkey : (b.imageFor key format compression).header.colorKey = key :=
    Header.colorKey_ofPicture _ _ _ _ _ _
  have hcompressed : (b.imageFor key format compression).header.isCompressed
      = decide (compression = .rows) := b.isCompressed_encodingFor key format compression
  rw [Header.options, hkey, hcompressed]
  cases compression <;> rfl

/-- **The encoder's blobs are fixed points.**  What is read from a blob, encoded with the options
that its header says, is the blob again, byte for byte.  It does not matter how the format was
chosen, nor how the pixels of the first picture were stored. -/
theorem encode_of_read_encode {options : EncodeOptions} {blob : List UInt8}
    (h : encode b options = .ok blob) :
    ∃ image picture, Image.read blob = .ok image ∧ image.toPixelBuffer = .ok picture ∧
      encode picture image.header.options = .ok blob := by
  obtain ⟨key, format, hdim, -, hsettles, rfl⟩ := encode_eq_ok h
  refine ⟨b.imageFor key format options.compression, b.shownIn format,
    Image.read_encodingFor hdim hsettles _, Image.toPixelBuffer_imageFor hsettles _, ?_⟩
  have hdim' : ¬ ((b.shownIn format).width = 0 ∨ (b.shownIn format).height = 0) := by
    rwa [b.width_shownIn, b.height_shownIn]
  rw [b.options_imageFor, encode_of_settles hdim' rfl hsettles.shownIn, b.encodingFor_shownIn]

/-- No pixel of `fourColors` is white, and four bits are more than its colors need without the key:
both have to come from the header. -/
theorem encode_of_read_encode_fourColors :
    encode fourColors ⟨.smallestIndexed, some "WHITE", .none⟩ = .ok fourColorsBlob ∧
    ∃ image picture, Image.read fourColorsBlob = .ok image ∧
      image.toPixelBuffer = .ok picture ∧
      encode picture image.header.options = .ok fourColorsBlob := by
  have hencode : encode fourColors ⟨.smallestIndexed, some "WHITE", .none⟩
      = .ok fourColorsBlob := rfl
  exact ⟨hencode, encode_of_read_encode hencode⟩

/-! ## Blobs of others -/

namespace Image

variable {image : Image} {picture : PixelBuffer}

lemma bufferOf_eq_ok_iff {result : Except EncodeError PixelBuffer} :
    bufferOf result = .ok picture ↔ result = .ok picture :=
  mapError_eq_ok_iff

/-- **What a picture has of the image that it was read from**: its dimensions, the way its pixels
are stored, and no colors but those of the palette. -/
structure Shows (image : Image) (picture : PixelBuffer) : Prop where
  width : picture.width = image.header.width
  height : picture.height = image.header.height
  shownIn : picture.shownIn image.header.format = picture
  colors : image.header.format.isIndexed = true → ∀ c ∈ picture.colors, c ∈ image.palette

lemma mem_palette_of_mapM_colorOf {values : List UInt8} {colors : List Color}
    (h : values.mapM image.colorOf = .ok colors) {c : Color} (hc : c ∈ colors) :
    c ∈ image.palette := by
  rw [mapM_colorOf] at h
  split at h
  · exact absurd h (by simp)
  · obtain rfl := Except.ok.inj h
    obtain ⟨v, -, hv⟩ := List.mem_filterMap.1 hc
    exact List.mem_of_getElem? hv

lemma shows_of_ofColors {colors : List Color} (hindexed : image.header.format.isIndexed = true)
    (hpalette : ∀ c ∈ colors, c ∈ image.palette)
    (h : PixelBuffer.ofColors image.header.width image.header.height colors = .ok picture) :
    image.Shows picture := by
  obtain ⟨hsize, hbad, rfl⟩ := PixelBuffer.exists_of_ofData h
  refine ⟨rfl, rfl, ?_, fun _ => hpalette⟩
  rw [PixelBuffer.shownIn, if_pos hindexed]
  rfl

lemma shows_of_ofBits {bits : List Bool} (hmono : ¬ image.header.format.isIndexed = true)
    (h : PixelBuffer.ofBits image.header.width image.header.height bits = .ok picture) :
    image.Shows picture := by
  obtain ⟨hsize, hbad, rfl⟩ := PixelBuffer.exists_of_ofData h
  refine ⟨rfl, rfl, ?_, fun hindexed => absurd hindexed hmono⟩
  rw [PixelBuffer.shownIn, if_neg hmono]
  rfl

/-- **A picture that was read** shows its image, whoever wrote the blob. -/
lemma shows_of_toPixelBuffer (h : image.toPixelBuffer = .ok picture) : image.Shows picture := by
  rw [toPixelBuffer] at h
  split at h
  · exact absurd h (by simp)
  · next values _ =>
      split_ifs at h with hindexed
      · cases hcolors : values.mapM image.colorOf with
        | error e =>
            rw [hcolors] at h
            exact absurd h (by simp [bind, Except.bind])
        | ok colors =>
            rw [hcolors] at h
            exact shows_of_ofColors hindexed (fun c hc => mem_palette_of_mapM_colorOf hcolors hc)
              (bufferOf_eq_ok_iff.1 h)
      · exact shows_of_ofBits hindexed (bufferOf_eq_ok_iff.1 h)

namespace Shows

/-- Without compression the rows take the same bytes again. -/
lemma length_rows_encodingFor (h : image.Shows picture) (hcomplete : image.Complete) :
    (picture.encodingFor key image.header.format .none).rows.length = image.rows.length := by
  rw [picture.length_rows_encodingFor, h.width, h.height, hcomplete.rows,
    hcomplete.header.rowStride_toNat, Nat.mul_comm]

section Key

variable (h : image.Shows picture) (hkey : ∀ k, key = some k → k.color ∈ image.palette)

include h hkey

/-- **The colors that are left fit the palette that there was**, together with a key that was in
it. -/
lemma distinctColors_le (hindexed : image.header.format.isIndexed = true) :
    distinctColors key picture.colors ≤ image.palette.length := by
  refine distinctColors_le_length fun c hc => ?_
  rcases List.mem_append.1 hc with hc | hc
  · cases key with
    | none => exact absurd hc List.not_mem_nil
    | some k => exact List.mem_singleton.1 hc ▸ hkey k rfl
  · exact h.colors hindexed c hc

/-- **There is room for them**, for a header is not accepted if its palette has more entries than
the format can index. -/
lemma settles (hcomplete : image.Complete) :
    (FormatChoice.fixed image.header.format).Settles (distinctColors key picture.colors)
      image.header.format := by
  rcases image.header.format.eq_monochrome_or_isIndexed with hmono | hindexed
  · rw [hmono]
    exact .monochrome
  · have hlimit : image.header.format.paletteLimit = image.header.format.capacity :=
      if_pos hindexed
    refine .fixed hindexed ?_
    calc distinctColors key picture.colors
        ≤ image.palette.length := h.distinctColors_le hkey hindexed
      _ = image.header.paletteSize.toNat := hcomplete.palette
      _ ≤ image.header.format.capacity := hlimit ▸ hcomplete.header.paletteSize

lemma length_paletteFor_le :
    (picture.paletteFor key image.header.format).length ≤ image.palette.length := by
  rcases image.header.format.eq_monochrome_or_isIndexed with hmono | hindexed
  · rw [hmono]
    exact Nat.zero_le _
  · rw [picture.paletteFor_of_isIndexed key hindexed, length_firstSeen]
    exact h.distinctColors_le hkey hindexed

end Key

end Shows

/-- An uncompressed blob is as long as its parts. -/
lemma length_eq_of_read {bytes : List UInt8} (h : Image.read bytes = .ok image)
    (hplain : image.header.isCompressed = false) :
    bytes.length = headerSize + image.rows.length + 4 * image.palette.length := by
  obtain ⟨hheader, streams, data, table, hdivides, -⟩ := exists_divides_of_read h
  rw [hdivides.length_eq hheader, hdivides.stored.eq_rows_of_plain hplain,
    (complete_of_read h).palette]

end Image

/-- **Any blob with a picture can be normalized.**  Whoever wrote it, and however, the encoder has
room for its picture in the same format, also with a key that is a color of the palette.  The new
blob shows the same picture with no more palette entries, and if neither is compressed it is not
longer. -/
theorem normalized_of_read {bytes : List UInt8} {image : Image} {picture : PixelBuffer}
    (hread : Image.read bytes = .ok image) (hpicture : image.toPixelBuffer = .ok picture)
    {key : Option ColorKey} (hkey : ∀ k, key = some k → k.color ∈ image.palette)
    (compression : Compression) :
    ∃ blob image',
      encode picture ⟨.fixed image.header.format, key.map ColorKey.name, compression⟩ = .ok blob ∧
      Image.read blob = .ok image' ∧ image'.toPixelBuffer = .ok picture ∧
      image'.header.paletteSize ≤ image.header.paletteSize ∧
      (image.header.isCompressed = false → image'.header.isCompressed = false →
        blob.length ≤ bytes.length) := by
  have hcomplete := Image.complete_of_read hread
  have hshows := Image.shows_of_toPixelBuffer hpicture
  have hsettles := hshows.settles hkey hcomplete
  have hpalette := hshows.length_paletteFor_le hkey
  have hdim : ¬ (picture.width = 0 ∨ picture.height = 0) := by
    rw [hshows.width, hshows.height]
    exact not_or.2 ⟨hcomplete.header.width, hcomplete.header.height⟩
  refine ⟨_, picture.imageFor key image.header.format compression,
    encode_of_settles hdim rfl hsettles, Image.read_encodingFor hdim hsettles compression, ?_, ?_, ?_⟩
  · rw [Image.toPixelBuffer_imageFor hsettles, hshows.shownIn]
  · rw [UInt16.le_iff_toNat_le, ← hcomplete.palette]
    exact (PixelBuffer.toNat_paletteSize hsettles).trans_le hpalette
  · intro hplain hplain'
    have hnone : compression = .none := by
      cases compression with
      | none => rfl
      | rows => exact absurd (hplain'.symm.trans (picture.isCompressed_encodingFor _ _ _)) (by simp)
    rw [hnone, Encoding.length_toBytes, hshows.length_rows_encodingFor hcomplete,
      Image.length_eq_of_read hread hplain]
    exact Nat.add_le_add_left (Nat.mul_le_mul_left 4 hpalette) _

/-- No encoder wrote this: red is in the palette twice and white is not used, the padding of both
rows is not zero, and neither are the last two bytes of the header. -/
def foreignBlob : List UInt8 :=
  [1, 0, 1, 4, 3, 0, 0, 0, 2, 0, 0, 0, 1, 0, 0, 0, 4, 0, 7, 7, 0x2d, 0xa3,
    255, 0, 0, 255, 255, 255, 255, 255, 255, 0, 0, 255, 0, 0, 0, 255]

/-- What `foreignBlob` holds. -/
def foreignImage : Image where
  header := ⟨.indexed2, 4, 3, 2, 1, 4⟩
  rows := [0x2d, 0xa3]
  palette := [⟨255, 0, 0, 255⟩, Color.white, ⟨255, 0, 0, 255⟩, Color.black]

/-- What `foreignBlob` shows: a black pixel among red ones. -/
def foreignPicture : PixelBuffer where
  width := 3
  height := 2
  data := .rgba [⟨255, 0, 0, 255⟩, ⟨255, 0, 0, 255⟩, Color.black,
    ⟨255, 0, 0, 255⟩, ⟨255, 0, 0, 255⟩, ⟨255, 0, 0, 255⟩]
  size_eq := rfl
  badIndex_eq := rfl

theorem normalized_of_read_foreign :
    Image.read foreignBlob = .ok foreignImage ∧
    foreignImage.toPixelBuffer = .ok foreignPicture ∧
    (∀ k, some ColorKey.white = some k → k.color ∈ foreignImage.palette) ∧
    ∃ blob image',
      encode foreignPicture ⟨.fixed .indexed2, some "WHITE", .none⟩ = .ok blob ∧
      Image.read blob = .ok image' ∧ image'.toPixelBuffer = .ok foreignPicture ∧
      image'.header.paletteSize ≤ foreignImage.header.paletteSize ∧
      (foreignImage.header.isCompressed = false → image'.header.isCompressed = false →
        blob.length ≤ foreignBlob.length) := by
  have hread : Image.read foreignBlob = .ok foreignImage := rfl
  have hpicture : foreignImage.toPixelBuffer = .ok foreignPicture := rfl
  have hkey : ∀ k, some ColorKey.white = some k → k.color ∈ foreignImage.palette := by
    intro k hk
    obtain rfl := Option.some.inj hk
    decide
  exact ⟨hread, hpicture, hkey, normalized_of_read hread hpicture hkey .none⟩

end WatchBitmap
