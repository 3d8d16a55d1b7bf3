import Mathlib.Data.List.Basic
import Mathlib.Tactic.Common
import WatchBitmap.Host
import WatchBitmap.Proofs.PixelStorage

/-!
# What a host gets of pictures and blobs

A host holds a picture as plain bytes, four for each pixel, however the picture was stored before.
On the way back these are cut into colors and checked again, so what reaches the encoder is another
buffer.  It is the same picture, though, and the encoder tells pictures apart by nothing else
(`encoding_asColors`).  In the other direction, a host that holds a blob can ask what it was made
from, and gets the arguments of the call back.

* `RasterImage.toBuffer_ofBuffer` — bytes written out from a picture give the picture back.
* `Host.EncodesLike` — a call with the results and the messages of the encoder.
* `Host.encodesLike_ofBuffer` — **a host's calls encode as the encoder does.**
* `Host.exists_of_encodePixels` — what there has to be for a call to give a blob.
* `Host.recalls_inspect` — **a blob recalls what it was made from.**
-/

namespace WatchBitmap

/-! ## Pictures as bytes -/

/-- **A picture written out in bytes is read back**, stored as colors.  There have to be few enough
bytes that they can be counted. -/
lemma RasterImage.toBuffer_ofBuffer {b : PixelBuffer}
    (hfits : 4 * (b.width.toNat * b.height.toNat) ≤ countLimit) :
    (RasterImage.ofBuffer b).toBuffer = .ok b.asColors := by
  have hlength : (b.colors.flatMap Color.toBytes).length = expectedCount b.width b.height 4 := by
    have htable := Palette.length_tableBytes b.colors
    rw [b.length_colors] at htable
    rw [expectedCount, Nat.min_eq_left (by omega), ← htable, Palette.tableBytes]
  rw [toBuffer, ofBuffer, PixelBuffer.ofBytes, if_pos hlength, Color.ofBytes_flatMap_toBytes]
  exact b.asColors.ofData_self

namespace Host

/-- **A call that encodes a picture like the encoder.**  The arguments are a code for the format, a
selector for the key, and whether rows are to be compressed. -/
structure EncodesLike (b : PixelBuffer)
    (call : UInt8 → Option String → Bool → Except Failure (List UInt8)) : Prop where
  /-- A code that stands for no format is refused, and no other is. -/
  unknownFormat : ∀ code key compress other,
    call code key compress = .error (.unknownFormat other) ↔ 3 < code ∧ other = code
  unknownMessage : ∀ code key compress, 3 < code →
    (call code key compress).mapError Failure.message
      = .error ("Unknown format code: " ++ toString code.toNat)
  encoded : ∀ code key compress format, Format.ofTag? code = some format →
    call code key compress
      = (encode b ⟨.fixed format, key, if compress then .rows else .none⟩).mapError .encode
  encodedMessage : ∀ code key compress format, Format.ofTag? code = some format →
    (call code key compress).mapError Failure.message
      = (encode b ⟨.fixed format, key, if compress then .rows else .none⟩).mapError
          EncodeError.message

lemma encodeBuffer_of_lt (b : PixelBuffer) {code : UInt8} (hcode : 3 < code)
    (key : Option String) (compress : Bool) :
    encodeBuffer b code key compress = .error (.unknownFormat code) := by
  simp only [encodeBuffer, options, Format.ofTag?_eq_none_iff.2 hcode]
  rfl

lemma encodeBuffer_of_ofTag? (b : PixelBuffer) {code : UInt8} {format : Format}
    (hcode : Format.ofTag? code = some format) (key : Option String) (compress : Bool) :
    encodeBuffer b code key compress
      = (encode b ⟨.fixed format, key, if compress then .rows else .none⟩).mapError .encode := by
  simp only [encodeBuffer, options, hcode]
  cases compress <;> rfl

lemma encodesLike_encodeBuffer (b : PixelBuffer) : EncodesLike b (encodeBuffer b) where
  unknownFormat := by
    intro code key compress other
    constructor
    · intro h
      cases hcode : Format.ofTag? code with
      | none =>
          have hlt := Format.ofTag?_eq_none_iff.1 hcode
          rw [encodeBuffer_of_lt b hlt] at h
          simp only [Except.error.injEq, Failure.unknownFormat.injEq] at h
          exact ⟨hlt, h.symm⟩
      | some format =>
          rw [encodeBuffer_of_ofTag? b hcode] at h
          cases hencode : encode b ⟨.fixed format, key, if compress then .rows else .none⟩ <;>
            simp [hencode, Except.mapError] at h
    · rintro ⟨hlt, rfl⟩
      exact encodeBuffer_of_lt b hlt key compress
  unknownMessage := by
    intro code key compress hlt
    rw [encodeBuffer_of_lt b hlt]
    rfl
  encoded := by
    intro code key compress format hcode
    exact encodeBuffer_of_ofTag? b hcode key compress
  encodedMessage := by
    intro code key compress format hcode
    rw [encodeBuffer_of_ofTag? b hcode]
    cases encode b ⟨.fixed format, key, if compress then .rows else .none⟩ <;> rfl

/-- What reaches the encoder is stored otherwise, and encoded alike. -/
lemma encodeImage_ofBuffer {b : PixelBuffer}
    (hfits : 4 * (b.width.toNat * b.height.toNat) ≤ countLimit) :
    encodeImage (.ofBuffer b) = encodeBuffer b := by
  funext code key compress
  have hencode : ∀ options, encode b.asColors options = encode b options := by
    intro options
    rw [encode, encode, encoding_asColors]
  rw [encodeImage, RasterImage.toBuffer_ofBuffer hfits]
  show encodeBuffer b.asColors code key compress = encodeBuffer b code key compress
  simp only [encodeBuffer, hencode]

/-- **A host's calls encode as the encoder does.**  A picture that a host is given comes back as the
same picture, stored as colors.  Encoding it gives the same bytes, or the same error in the same
words, whether the host hands over the image or its bytes. -/
theorem encodesLike_ofBuffer (b : PixelBuffer)
    (hfits : 4 * (b.width.toNat * b.height.toNat) ≤ countLimit) :
    (∃ picture, (RasterImage.ofBuffer b).toBuffer = .ok picture ∧ picture.data = .rgba b.colors ∧
      picture.SamePicture b) ∧
    EncodesLike b (encodeImage (.ofBuffer b)) ∧
    EncodesLike b (encodePixels (RasterImage.ofBuffer b).pixels b.width b.height) := by
  have hlike : EncodesLike b (encodeImage (.ofBuffer b)) := by
    rw [encodeImage_ofBuffer hfits]
    exact encodesLike_encodeBuffer b
  refine ⟨⟨b.asColors, RasterImage.toBuffer_ofBuffer hfits, rfl, ?_⟩, hlike, hlike⟩
  exact PixelBuffer.samePicture_iff.2 rfl

/-- A picture over a palette, handed on in bytes. -/
theorem encodesLike_checkedIndices :
    4 * (checkedIndices.width.toNat * checkedIndices.height.toNat) ≤ countLimit ∧
    (∃ picture, (RasterImage.ofBuffer checkedIndices).toBuffer = .ok picture ∧
      picture.data = .rgba checkedIndices.colors ∧ picture.SamePicture checkedIndices) ∧
    EncodesLike checkedIndices (encodeImage (.ofBuffer checkedIndices)) ∧
    EncodesLike checkedIndices
      (encodePixels (RasterImage.ofBuffer checkedIndices).pixels checkedIndices.width
        checkedIndices.height) :=
  ⟨by decide, encodesLike_ofBuffer checkedIndices (by decide)⟩

/-! ## Blobs and what they recall -/

/-- **What there has to be** for a call to give a blob: a picture of these bytes, and a format. -/
lemma exists_of_encodePixels {pixels blob : List UInt8} {width height : UInt32} {code : UInt8}
    {key : Option String} {compress : Bool}
    (h : encodePixels pixels width height code key compress = .ok blob) :
    ∃ b format, b.width = width ∧ b.height = height ∧ b.colors = Color.ofBytes pixels ∧
      Format.tag format = code ∧
      encode b ⟨.fixed format, key, if compress then .rows else .none⟩ = .ok blob := by
  rw [encodePixels, encodeImage, RasterImage.toBuffer] at h
  cases hbuffer : PixelBuffer.ofBytes width height pixels with
  | error cause =>
      rw [hbuffer] at h
      exact absurd h (by simp [Except.mapError, bind, Except.bind])
  | ok b =>
      rw [hbuffer] at h
      replace h : encodeBuffer b code key compress = .ok blob := h
      obtain ⟨hwidth, hheight, hcolors⟩ := PixelBuffer.exists_of_ofBytes hbuffer
      cases hcode : Format.ofTag? code with
      | none =>
          rw [encodeBuffer_of_lt b (Format.ofTag?_eq_none_iff.1 hcode)] at h
          exact absurd h (by simp)
      | some format =>
          rw [encodeBuffer_of_ofTag? b hcode, mapError_eq_ok_iff] at h
          exact ⟨b, format, hwidth, hheight, hcolors, Format.ofTag?_eq_some_iff.1 hcode, h⟩

/-- **A summary that recalls the arguments of a call.** -/
structure Recalls (summary : BlobSummary) (pixels : List UInt8) (width height : UInt32)
    (code : UInt8) (key : Option String) (compress : Bool) : Prop where
  /-- The bits of a row, rounded up to whole bytes. -/
  rowStride : summary.rowStride.toNat = (width.toNat * summary.format.bitsPerPixel + 7) / 8
  format : summary.format.tag = code
  width : summary.width = width
  height : summary.height = height
  transparent : summary.transparent = key.isSome
  colorKey : summary.colorKey.map ColorKey.name = key
  compressed : summary.compressed = compress
  monochrome : code = 0 → summary.palette = []
  /-- The key's color, then those of the pixels, each where it is first seen. -/
  indexed : code ≠ 0 → summary.palette = firstSeen summary.colorKey (Color.ofBytes pixels)

/-- The image behind a blob says all of this, whichever way its rows are stored. -/
lemma recalls_ofImage {b : PixelBuffer} {pixels : List UInt8}
    (hcolors : b.colors = Color.ofBytes pixels) (format : Format) (key : Option ColorKey)
    {compression : Compression} {compress : Bool}
    (hcompress : decide (compression = .rows) = compress) :
    Recalls (.ofImage (b.imageFor key format compression)) pixels b.width b.height format.tag
      (key.map ColorKey.name) compress where
  rowStride := b.rowStride_encodingFor key format compression
  format := rfl
  width := rfl
  height := rfl
  transparent := by
    rw [Option.isSome_map]
    exact Header.isTransparent_ofPicture _ _ _ _ _ _
  colorKey := congrArg _ (Header.colorKey_ofPicture _ _ _ _ _ _)
  compressed := (b.isCompressed_encodingFor key format compression).trans hcompress
  monochrome := by
    intro hcode
    have hformat : Format.ofTag? 0 = some format := Format.ofTag?_eq_some_iff.2 hcode
    obtain rfl : Format.monochrome = format := Option.some.inj hformat
    rfl
  indexed := by
    intro hcode
    rcases format.eq_monochrome_or_isIndexed with rfl | hindexed
    · exact absurd rfl hcode
    · have hkey : (BlobSummary.ofImage (b.imageFor key format compression)).colorKey = key :=
        Header.colorKey_ofPicture _ _ _ _ _ _
      rw [hkey, ← hcolors]
      exact b.palette_imageFor key compression hindexed

/-- **A blob recalls what it was made from.**  Asked about a blob that a call has given, a host is
told the arguments of that call, and the palette that goes with them. -/
theorem recalls_inspect {pixels blob : List UInt8} {width height : UInt32} {code : UInt8}
    {key : Option String} {compress : Bool}
    (h : encodePixels pixels width height code key compress = .ok blob) :
    ∃ summary, inspect blob = .ok summary ∧
      Recalls summary pixels width height code key compress := by
  obtain ⟨b, format, rfl, rfl, hcolors, rfl, hencode⟩ := exists_of_encodePixels h
  obtain ⟨key, settled, hdim, hkey, hsettles, rfl⟩ := encode_eq_ok hencode
  obtain rfl : settled = format := by cases hsettles <;> rfl
  simp only at hkey
  subst hkey
  have hcompress :
      decide ((if compress then .rows else .none : Compression) = .rows) = compress := by
    cases compress <;> rfl
  refine ⟨_, ?_, recalls_ofImage hcolors settled key hcompress⟩
  rw [inspect, Image.read_encodingFor hdim hsettles]
  rfl

/-- A row of four red pixels and one that is a green half seen through, and its blob with two bits
for each pixel, the color black being transparent and the rows compressed. -/
def redRow : List UInt8 :=
  [255, 0, 0, 255, 255, 0, 0, 255, 255, 0, 0, 255, 255, 0, 0, 255, 0, 255, 0, 128]

def redRowBlob : List UInt8 :=
  [1, 0, 1, 3, 5, 0, 0, 0, 1, 0, 0, 0, 2, 0, 0, 0, 3, 0, 0, 0, 1, 85, 128,
    0, 0, 0, 255, 255, 0, 0, 255, 0, 255, 0, 128]

theorem recalls_redRow :
    encodePixels redRow 5 1 1 (some "BLACK") true = .ok redRowBlob ∧
      ∃ summary, inspect redRowBlob = .ok summary ∧
        Recalls summary redRow 5 1 1 (some "BLACK") true := by
  have hblob : encodePixels redRow 5 1 1 (some "BLACK") true = .ok redRowBlob := by
    decide +kernel
  exact ⟨hblob, recalls_inspect hblob⟩

end Host

end WatchBitmap
