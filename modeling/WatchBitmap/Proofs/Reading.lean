import Mathlib.Data.List.Basic
import Mathlib.Tactic.Common
import WatchBitmap.Image
import WatchBitmap.Proofs.Acceptance
import WatchBitmap.Proofs.BitPacking
import WatchBitmap.Proofs.Encoding
import WatchBitmap.Proofs.Header
import WatchBitmap.Proofs.RowCoding

/-!
# Reading what the encoder writes

A blob is read in the order in which it was put together: header, rows, palette.  The rows are the
same packed rows whether they were compressed or not (`packRows`), so the reader ends up with one
and the same image, and unpacking its rows gives the encoder's values back.

* `Image.read_encodingFor` — **the image of a blob**: `PixelBuffer.imageFor`.
* `Image.pixelValues?_imageFor` — its values.
* `PixelBuffer.shownIn`, `Image.toPixelBuffer_imageFor` — its picture: the one that was encoded,
  stored as colors or as bits.
-/

namespace WatchBitmap

lemma Format.bitsPerPixel_dvd (format : Format) : format.bitsPerPixel ∣ 8 := by
  cases format <;> decide

/-! ## Packed rows -/

/-- The packed rows of a picture's values. -/
def packRows (format : Format) (width height : ℕ) (values : List UInt8) : List (List UInt8) :=
  (splitRows width height values).map (BitPacking.packRow format.bitsPerPixel)

section PackedRows

variable (format : Format) {width height : ℕ} {values : List UInt8}

@[simp] lemma length_packRows : (packRows format width height values).length = height := by
  rw [packRows, List.length_map, length_splitRows]

/-- Each packed row has the bytes that a header declares. -/
lemma length_packRow_of_mem_splitRows (hlen : values.length = width * height) {vs : List UInt8}
    (hvs : vs ∈ splitRows width height values) :
    (BitPacking.packRow format.bitsPerPixel vs).length = format.rowBytes width := by
  rw [BitPacking.length_packRow format.bitsPerPixel_dvd, length_of_mem_splitRows hlen hvs,
    Format.rowBytes]

lemma length_of_mem_packRows (hlen : values.length = width * height) {row : List UInt8}
    (hrow : row ∈ packRows format width height values) : row.length = format.rowBytes width := by
  obtain ⟨vs, hvs, rfl⟩ := List.mem_map.1 hrow
  exact length_packRow_of_mem_splitRows format hlen hvs

lemma storeRows_none : storeRows format .none width height values
    = (packRows format width height values).flatten := by
  rw [storeRows, packRows, ← List.flatMap_def]
  rfl

lemma storeRows_rows : storeRows format .rows width height values
    = (packRows format width height values).flatMap PackBits.encodeRow := by
  rw [storeRows, packRows, List.flatMap_map]
  rfl

lemma length_flatten_packRows (hlen : values.length = width * height) :
    (packRows format width height values).flatten.length = format.rowBytes width * height := by
  rw [packRows, ← List.flatMap_def,
    length_flatMap_blocks fun _ hvs => length_packRow_of_mem_splitRows format hlen hvs,
    length_splitRows, Nat.mul_comm]

/-- **Unpacking all rows** gives the values back, if they fit their slots. -/
lemma mapM_unpackRow?_packRows (hlen : values.length = width * height)
    (hfits : ∀ value ∈ values, value.toNat < 2 ^ format.bitsPerPixel) :
    ((packRows format width height values).mapM
      (BitPacking.unpackRow? format.bitsPerPixel width)).map List.flatten = some values := by
  have hrow : ∀ row ∈ splitRows width height values,
      BitPacking.unpackRow? format.bitsPerPixel width
        (BitPacking.packRow format.bitsPerPixel row) = some row := by
    intro row hrow
    have hunpack := BitPacking.unpackRow?_packRow format.bitsPerPixel_dvd row
    rw [length_of_mem_splitRows hlen hrow] at hunpack
    have hlow : ∀ value ∈ row, BitPacking.lowBits format.bitsPerPixel value = value := by
      intro value hvalue
      refine BitPacking.lowBits_of_lt (hfits value ?_)
      rw [← flatten_splitRows hlen]
      exact List.mem_flatten_of_mem hrow hvalue
    rw [hunpack, List.map_congr_left hlow, List.map_id']
  have hrows : (splitRows width height values).mapM
      (BitPacking.unpackRow? format.bitsPerPixel width ∘ BitPacking.packRow format.bitsPerPixel)
        = some ((splitRows width height values).map id) := mapM_eq_pure hrow
  rw [packRows, List.mapM_map, hrows, List.map_id, Option.map_some, flatten_splitRows hlen]

end PackedRows

/-! ## The image of a blob -/

variable {b : PixelBuffer} {choice : FormatChoice} {key : Option ColorKey} {format : Format}
  {compression : Compression}

/-- **What a picture's blob holds**: the encoder's header and palette, and the packed rows. -/
def PixelBuffer.imageFor (b : PixelBuffer) (key : Option ColorKey) (format : Format)
    (compression : Compression) : Image where
  header := (b.encodingFor key format compression).header
  rows := (packRows format b.width.toNat b.height.toNat (b.valuesFor key format)).flatten
  palette := b.paletteFor key format

lemma PixelBuffer.palette_imageFor (b : PixelBuffer) (key : Option ColorKey)
    (compression : Compression) (hindexed : format.isIndexed = true) :
    (b.imageFor key format compression).palette = firstSeen key b.colors :=
  b.paletteFor_of_isIndexed key hindexed

/-- The number of palette entries fits its field of the header. -/
lemma PixelBuffer.toNat_paletteSize
    (hsettles : choice.Settles (distinctColors key b.colors) format) :
    (UInt16.ofNat (b.paletteFor key format).length).toNat = (b.paletteFor key format).length := by
  have hle := b.length_paletteFor_le hsettles
  have hlimit : format.paletteLimit ≤ 256 := by cases format <;> decide
  rw [UInt16.toNat_ofNat', Nat.mod_eq_of_lt (by omega)]

lemma PixelBuffer.wellFormed_header (hdim : ¬ (b.width = 0 ∨ b.height = 0))
    (hsettles : choice.Settles (distinctColors key b.colors) format) :
    (b.encodingFor key format compression).header.WellFormed := by
  refine Header.wellFormed_ofPicture _ _ _ _ _ _ (fun h => hdim (Or.inl h))
    (fun h => hdim (Or.inr h)) ?_
  rw [toNat_paletteSize hsettles]
  exact b.length_paletteFor_le hsettles

lemma PixelBuffer.isCompressed_encodingFor (b : PixelBuffer) (key : Option ColorKey)
    (format : Format) (compression : Compression) :
    (b.encodingFor key format compression).header.isCompressed = decide (compression = .rows) :=
  Header.isCompressed_ofPicture _ _ _ _ _ _

/-- Without compression the packed rows are stored as they are. -/
lemma PixelBuffer.rows_encodingFor_none (b : PixelBuffer) (key : Option ColorKey)
    (format : Format) :
    (b.encodingFor key format .none).rows
      = (packRows format b.width.toNat b.height.toNat (b.valuesFor key format)).flatten :=
  storeRows_none format

/-- The stride in the header is the length of the packed rows. -/
lemma PixelBuffer.rowStride_encodingFor (b : PixelBuffer) (key : Option ColorKey)
    (format : Format) (compression : Compression) :
    (b.encodingFor key format compression).header.rowStride.toNat
      = format.rowBytes b.width.toNat :=
  Header.rowStride_ofPicture _ _ _ _ _ _

/-- **The encoder stores rows in the format of a body**, compressed or not. -/
lemma PixelBuffer.exists_storedRows_encodingFor (b : PixelBuffer) (key : Option ColorKey)
    (format : Format) (compression : Compression) :
    ∃ streams, StoredRows (b.encodingFor key format compression).header streams
      (b.encodingFor key format compression).rows (b.imageFor key format compression).rows := by
  have hlen := b.length_valuesFor key format
  have hstride := b.rowStride_encodingFor key format compression
  have hcompressed := b.isCompressed_encodingFor key format compression
  cases compression with
  | none =>
      have hstored : (b.encodingFor key format .none).rows
          = (b.imageFor key format .none).rows := b.rows_encodingFor_none key format
      rw [hstored]
      refine ⟨[], .plain hcompressed ?_⟩
      rw [hstride]
      exact length_flatten_packRows format hlen
  | rows =>
      have hrows : ∀ row ∈ packRows format b.width.toNat b.height.toNat (b.valuesFor key format),
          row.length = format.rowBytes b.width.toNat :=
        fun row hrow => length_of_mem_packRows format hlen hrow
      have hstored : (b.encodingFor key format .rows).rows
          = (packRows format b.width.toNat b.height.toNat (b.valuesFor key format)).flatMap
              PackBits.encodeRow := storeRows_rows format
      rw [hstored, ← PackBits.flatMap_toBytes_map_tokens, imageFor,
        ← PackBits.flatMap_expand_map_tokens]
      refine ⟨_, .coded hcompressed ?_ ?_⟩
      · rw [List.length_map, length_packRows]
        rfl
      · rw [hstride]
        exact PackBits.isRow_of_mem_map_tokens hrows

namespace Image

/-- **The image of a blob.** -/
theorem read_encodingFor (hdim : ¬ (b.width = 0 ∨ b.height = 0))
    (hsettles : choice.Settles (distinctColors key b.colors) format)
    (compression : Compression) :
    Image.read (b.encodingFor key format compression).toBytes
      = .ok (b.imageFor key format compression) := by
  obtain ⟨streams, hstored⟩ := b.exists_storedRows_encodingFor key format compression
  have hheader : Header.read (b.encodingFor key format compression).toBytes
      = .ok (b.encodingFor key format compression).header := by
    rw [Encoding.toBytes, List.append_assoc]
    exact (PixelBuffer.wellFormed_header hdim hsettles).read_toBytes_append _
  have hbody : (b.encodingFor key format compression).toBytes.drop headerSize
      = (b.encodingFor key format compression).rows
        ++ Palette.tableBytes (b.paletteFor key format) := by
    rw [Encoding.toBytes, List.append_assoc]
    exact List.drop_left' (Header.length_toBytes _)
  have htable : (Palette.tableBytes (b.paletteFor key format)).length
      = 4 * (b.encodingFor key format compression).header.paletteSize.toNat := by
    rw [Palette.length_tableBytes, ← PixelBuffer.toNat_paletteSize hsettles, Nat.mul_comm]
    rfl
  have hdivides : Divides _ _ streams _ _ _ := ⟨hbody, hstored, htable⟩
  rw [hdivides.read_eq_ok hheader, Palette.tableBytes, Color.ofBytes_flatMap_toBytes]
  rfl

/-- **Its values** are those the encoder packed. -/
theorem pixelValues?_imageFor
    (hsettles : choice.Settles (distinctColors key b.colors) format)
    (compression : Compression) :
    (b.imageFor key format compression).pixelValues? = some (b.valuesFor key format) := by
  have hlen := b.length_valuesFor key format
  have hrows : (b.imageFor key format compression).packedRows
      = packRows format b.width.toNat b.height.toNat (b.valuesFor key format) := by
    have hsplit := splitRows_flatten
      (fun _ hrow => length_of_mem_packRows format hlen hrow)
    rw [length_packRows, ← b.rowStride_encodingFor key format compression] at hsplit
    exact hsplit
  rw [pixelValues?, hrows]
  exact mapM_unpackRow?_packRows format hlen fun value => b.toNat_lt_of_mem_valuesFor hsettles

end Image

/-! ## The picture of an image -/

/-- The same picture, stored as colors. -/
def PixelBuffer.asColors (b : PixelBuffer) : PixelBuffer where
  width := b.width
  height := b.height
  data := .rgba b.colors
  size_eq := b.length_colors
  badIndex_eq := rfl

/-- The same picture, stored as bits. -/
def PixelBuffer.asBits (b : PixelBuffer) : PixelBuffer where
  width := b.width
  height := b.height
  data := .mono b.bits
  size_eq := b.length_bits
  badIndex_eq := rfl

/-- **The picture that a blob in a format shows**: its pixels are colors, or bits if the format is
the monochrome one. -/
def PixelBuffer.shownIn (b : PixelBuffer) (format : Format) : PixelBuffer :=
  if format.isIndexed then b.asColors else b.asBits

/-- A picture can be built again from its own parts. -/
lemma PixelBuffer.ofData_self (b : PixelBuffer) :
    PixelBuffer.ofData b.width b.height b.data = .ok b := by
  have hsize : b.data.size = expectedCount b.width b.height 1 := by
    rw [expectedCount_one, b.size_eq]
  rw [ofData, dif_pos hsize]
  split
  · next hbad => rw [b.badIndex_eq] at hbad; exact absurd hbad (by simp)
  · rfl

lemma PixelBuffer.exists_of_ofData {width height : UInt32} {data : PixelData}
    {picture : PixelBuffer} (h : PixelBuffer.ofData width height data = .ok picture) :
    ∃ hsize hbad, picture = ⟨width, height, data, hsize, hbad⟩ := by
  rw [ofData] at h
  split at h
  · split at h
    · exact absurd h (by simp)
    · exact ⟨_, _, (Except.ok.inj h).symm⟩
  · exact absurd h (by simp)

/-- The check of the number of bytes leaves the picture that they spell out. -/
lemma PixelBuffer.exists_of_ofBytes {width height : UInt32} {bytes : List UInt8} {b : PixelBuffer}
    (h : PixelBuffer.ofBytes width height bytes = .ok b) :
    b.width = width ∧ b.height = height ∧ b.colors = Color.ofBytes bytes := by
  rw [ofBytes] at h
  split_ifs at h
  obtain ⟨hsize, hbad, rfl⟩ := PixelBuffer.exists_of_ofData h
  exact ⟨rfl, rfl, rfl⟩

/-- An error that is only reworded does not come from a result. -/
lemma mapError_eq_ok_iff {ε ε' α : Type} {f : ε → ε'} {x : Except ε α} {a : α} :
    x.mapError f = .ok a ↔ x = .ok a := by
  cases x <;> simp [Except.mapError]

namespace Image

/-- **An indexed image shows the colors that were encoded.** -/
theorem toPixelBuffer_imageFor_of_isIndexed
    (hsettles : choice.Settles (distinctColors key b.colors) format)
    (hindexed : format.isIndexed = true) (compression : Compression) :
    (b.imageFor key format compression).toPixelBuffer = .ok b.asColors := by
  have hfits := hsettles.le_widest hindexed
  have hpalette := b.palette_imageFor key compression hindexed
  have hcolor : ∀ c ∈ b.colors,
      (b.imageFor key format compression).colorOf (b.indexFor key c) = .ok c := by
    intro c hc
    rw [colorOf, hpalette, b.toNat_indexFor hfits hc,
      List.getElem?_idxOf (PixelBuffer.mem_firstSeen hc key)]
  have hcolors : (b.valuesFor key format).mapM (b.imageFor key format compression).colorOf
      = .ok b.colors := by
    rw [b.valuesFor_of_isIndexed key hindexed, List.mapM_map]
    exact (mapM_eq_pure (g := id) hcolor).trans (by rw [List.map_id]; rfl)
  have hformat : (b.imageFor key format compression).header.format.isIndexed = true := hindexed
  rw [toPixelBuffer, pixelValues?_imageFor hsettles]
  simp only [hformat, if_true, hcolors, bind, Except.bind]
  exact congrArg bufferOf b.asColors.ofData_self

/-- **A monochrome image shows the bits of the picture that was encoded.** -/
theorem toPixelBuffer_imageFor_monochrome (b : PixelBuffer) (key : Option ColorKey)
    (compression : Compression) :
    (b.imageFor key .monochrome compression).toPixelBuffer = .ok b.asBits := by
  have hbits : (b.valuesFor key .monochrome).map (· != 0) = b.bits := by
    have hbit : ∀ bit : Bool, (bitValue bit != 0) = bit := by
      intro bit
      cases bit <;> decide
    rw [b.valuesFor_monochrome, List.map_map]
    exact (List.map_congr_left fun bit _ => hbit bit).trans (List.map_id b.bits)
  have hvalues : (b.imageFor key .monochrome compression).pixelValues?
      = some (b.valuesFor key .monochrome) := pixelValues?_imageFor .monochrome compression
  have hformat : (b.imageFor key .monochrome compression).header.format.isIndexed = false := rfl
  rw [toPixelBuffer, hvalues]
  simp only [hformat, Bool.false_eq_true, if_false, hbits]
  exact congrArg bufferOf b.asBits.ofData_self

/-- **What the image of a blob shows**, whatever the format is. -/
theorem toPixelBuffer_imageFor
    (hsettles : choice.Settles (distinctColors key b.colors) format) (compression : Compression) :
    (b.imageFor key format compression).toPixelBuffer = .ok (b.shownIn format) := by
  rcases format.eq_monochrome_or_isIndexed with rfl | hindexed
  · exact toPixelBuffer_imageFor_monochrome b key compression
  · rw [PixelBuffer.shownIn, if_pos hindexed]
    exact toPixelBuffer_imageFor_of_isIndexed hsettles hindexed compression

end Image

end WatchBitmap
