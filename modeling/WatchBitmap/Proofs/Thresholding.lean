import Mathlib.Data.List.Basic
import Mathlib.Tactic.Common
import WatchBitmap.PictureLibrary
import WatchBitmap.Png
import WatchBitmap.Proofs.Isolation

/-!
# The threshold may be applied on either side

A pixel of a monochrome blob is lit or dark, and two parts of a build can settle which: the decoder,
if it is asked for bits, or the encoder, if it is handed colors.  Which of them does it must not
show, or the same file would compile differently depending on who asks.

What decodes is any `PictureLibrary`.  It has a text to say why there is no picture, or four bytes
for each pixel, and that is all that is used of it.

* `PictureLibrary.decode_cases` — a file fails in both forms for one reason, or gives a picture and
  its bits.
* `encoding_asBits` — a monochrome encoding of a picture is that of its bits.
* `Png.library`, `Png.decode_eq_library` — the decoder of PNG files is that of such a library.
* `thresholdsAlike_decode` — **the same bytes, the same errors, on either side.**
-/

namespace WatchBitmap

/-! ## Decoding with a library -/

/-- A complete raster is accepted in both forms, and one form holds the bits of the other. -/
lemma RasterImage.exists_inForm {image : RasterImage}
    (hlength : image.pixels.length = image.width.toNat * image.height.toNat * 4) :
    ∃ b, image.inForm .rgba = .ok b ∧ image.inForm .mono = .ok b.asBits := by
  let b : PixelBuffer :=
    ⟨image.width, image.height, .rgba (Color.ofBytes image.pixels), Color.length_ofBytes hlength,
      rfl⟩
  refine ⟨b, ?_, ?_⟩
  · exact congrArg (Except.mapError _) b.ofData_self
  · exact congrArg (Except.mapError _) b.asBits.ofData_self

/-- **A file in its two forms.** -/
lemma PictureLibrary.decode_cases (library : PictureLibrary) (file : List UInt8) :
    (∃ failure, ∀ mode, library.decode file mode = .error failure) ∨
      ∃ b, library.decode file .rgba = .ok b ∧ library.decode file .mono = .ok b.asBits := by
  simp only [decode]
  split_ifs with hsignature
  · cases hpicture : library.picture file with
    | error text => exact Or.inl ⟨.corrupted text, fun _ => rfl⟩
    | ok image => exact Or.inr (RasterImage.exists_inForm (library.length_pixels hpicture))
  · exact Or.inl ⟨_, fun _ => rfl⟩

/-! ## Encoding bits and colors -/

/-- A monochrome encoding looks at the bits of a picture and at nothing else, so it makes no
difference when they were settled. -/
lemma encoding_asBits (b : PixelBuffer) (key : Option String) (compression : Compression) :
    encoding b.asBits ⟨.fixed .monochrome, key, compression⟩
      = encoding b ⟨.fixed .monochrome, key, compression⟩ := by
  have hempty : b.asBits.isEmpty = b.isEmpty := rfl
  have hbits : b.asBits.bits = b.bits := rfl
  simp only [encoding, settleFormat, pixelValues, hempty, hbits]
  rfl

/-- **What a decoder has to do** for it not to matter where the threshold is applied. -/
structure ThresholdsAlike (decode : PixelMode → Except DecodeError PixelBuffer) : Prop where
  /-- Both forms fail for the same reason and in the same words, or neither fails. -/
  failure : ∀ failure, decode .mono = .error failure ↔ decode .rgba = .error failure
  size : ∀ bits colors, decode .mono = .ok bits → decode .rgba = .ok colors →
    bits.width = colors.width ∧ bits.height = colors.height
  /-- A monochrome blob, or the reason for having none, is the same for both forms. -/
  encode : ∀ bits colors, decode .mono = .ok bits → decode .rgba = .ok colors →
    ∀ options : EncodeOptions, options.format = .fixed .monochrome →
      encode bits options = encode colors options
  /-- A run that asks for the form it wants gives what is generated from the colors. -/
  generate : ∀ colors, decode .rgba = .ok colors → ∀ (d : ResourceDefinition)
    (context : BuildContext),
      (compile (.ofPicture decode) context [d] ()).1.result = [(d.generate colors context).result]

variable {decode : PixelMode → Except DecodeError PixelBuffer} {b : PixelBuffer}

lemma result_compile_eq_generate (hrgba : decode .rgba = .ok b)
    (hmono : decode .mono = .ok b.asBits) (d : ResourceDefinition) (context : BuildContext) :
    (compile (.ofPicture decode) context [d] ()).1.result = [(d.generate b context).result] := by
  rw [result_compile_ofPicture]
  cases hoptions : d.encodeOptions context with
  | error error =>
      simp only [ResourceDefinition.generate, hoptions]
      rfl
  | ok options =>
      rw [ResourceDefinition.generate_of_encodeOptions hoptions]
      by_cases hformat : options.format = .fixed .monochrome
      · -- the run is handed bits
        obtain ⟨format, key, compression⟩ := options
        obtain rfl : format = .fixed .monochrome := hformat
        have hmode : (⟨.fixed .monochrome, key, compression⟩ : EncodeOptions).pixelMode = .mono :=
          rfl
        simp only [bind, Except.bind, hmode, hmono, Except.mapError,
          ResourceDefinition.encodeObject, encoding_asBits]
      · have hmode : options.pixelMode = .rgba := if_neg hformat
        simp only [bind, Except.bind, hmode, hrgba, Except.mapError]

lemma thresholdsAlike_of_failed {failure : DecodeError}
    (h : ∀ mode, decode mode = .error failure) : ThresholdsAlike decode where
  failure other := by rw [h, h]
  size bits colors hbits := by simp [h] at hbits
  encode bits colors hbits := by simp [h] at hbits
  generate colors hcolors := by simp [h] at hcolors

/-- The two forms of a decoded file are one picture and its bits. -/
lemma eq_asBits_of_decoded (hrgba : decode .rgba = .ok b) (hmono : decode .mono = .ok b.asBits)
    {bits colors : PixelBuffer} (hbits : decode .mono = .ok bits)
    (hcolors : decode .rgba = .ok colors) : bits = colors.asBits := by
  obtain rfl := Except.ok.inj (hrgba.symm.trans hcolors)
  exact Except.ok.inj (hbits.symm.trans hmono)

lemma thresholdsAlike_of_decoded (hrgba : decode .rgba = .ok b)
    (hmono : decode .mono = .ok b.asBits) : ThresholdsAlike decode where
  failure failure := by simp [hrgba, hmono]
  size := by
    intro bits colors hbits hcolors
    rw [eq_asBits_of_decoded hrgba hmono hbits hcolors]
    exact ⟨rfl, rfl⟩
  encode := by
    rintro bits colors hbits hcolors ⟨format, key, compression⟩ hformat
    obtain rfl : format = .fixed .monochrome := hformat
    rw [eq_asBits_of_decoded hrgba hmono hbits hcolors, WatchBitmap.encode, WatchBitmap.encode,
      encoding_asBits]
  generate := by
    intro colors hcolors d context
    obtain rfl := Except.ok.inj (hrgba.symm.trans hcolors)
    exact result_compile_eq_generate hrgba hmono d context

/-! ## PNG files -/

/-- A raster with its colors written out. -/
def Raster.image (r : Raster) : RasterImage :=
  ⟨r.width, r.height, r.colors.flatMap Color.toBytes⟩

lemma Raster.length_image (r : Raster) :
    r.image.pixels.length = r.image.width.toNat * r.image.height.toNat * 4 := by
  simp only [image]
  rw [← r.length_eq]
  exact Palette.length_tableBytes r.colors

lemma Raster.inForm_image (r : Raster) (mode : PixelMode) :
    r.image.inForm mode = .ok (r.toBuffer mode) := by
  simp only [image, RasterImage.inForm, Color.ofBytes_flatMap_toBytes]
  cases mode with
  | rgba => exact congrArg (Except.mapError _) (r.toBuffer .rgba).ofData_self
  | mono => exact congrArg (Except.mapError _) (r.toBuffer .mono).ofData_self

/-- The decoder of PNG files as a library. -/
def Png.library (words : Png.Fault → String) : PictureLibrary where
  picture file := match Png.raster file with
    | .error fault => .error (words fault)
    | .ok r => .ok r.image
  length_pixels := by
    intro file image h
    cases hraster : Png.raster file with
    | error fault => simp [hraster] at h
    | ok r =>
        rw [hraster] at h
        obtain rfl := Except.ok.inj h
        exact r.length_image

/-- **The decoder of PNG files** decodes with it. -/
theorem Png.decode_eq_library (words : Png.Fault → String) (file : List UInt8) (mode : PixelMode) :
    Png.decode words file mode = (Png.library words).decode file mode := by
  simp only [Png.decode, Png.library, PictureLibrary.decode]
  split_ifs with hsignature
  · cases hraster : Png.raster file with
    | error fault => rfl
    | ok r => exact (r.inForm_image mode).symm
  · rfl

/-- **The threshold may be applied on either side**, whatever the library does with the bytes of a
file.  The decoder of PNG files is the case of one library. -/
theorem thresholdsAlike_decode (file : List UInt8) :
    (∀ library : PictureLibrary, ThresholdsAlike (library.decode file)) ∧
      ∀ words mode, Png.decode words file mode = (Png.library words).decode file mode := by
  refine ⟨?_, fun words => Png.decode_eq_library words file⟩
  intro library
  rcases library.decode_cases file with ⟨failure, hfailed⟩ | ⟨b, hrgba, hmono⟩
  · exact thresholdsAlike_of_failed hfailed
  · exact thresholdsAlike_of_decoded hrgba hmono

/-- A row of the grays 0, 127, 128 and 255. -/
def grayRow : List UInt8 :=
  [0x89, 0x50, 0x4e, 0x47, 0x0d, 0x0a, 0x1a, 0x0a, 0, 0, 0, 13, 0x49, 0x48, 0x44, 0x52,
    0, 0, 0, 4, 0, 0, 0, 1, 8, 0, 0, 0, 0, 0xdc, 0x57, 0x50, 0x11,
    0, 0, 0, 13, 0x49, 0x44, 0x41, 0x54, 0x78, 0x01, 0x63, 0x60, 0xa8, 0x6f, 0xf8, 0x0f, 0x00,
    0x03, 0x81, 0x01, 0xff, 0x17, 0x5f, 0x0d, 0x28,
    0, 0, 0, 0, 0x49, 0x45, 0x4e, 0x44, 0xae, 0x42, 0x60, 0x82]

theorem thresholdsAlike_grayRow :
    Png.decode (fun _ => "") grayRow .mono
        = .ok ⟨4, 1, .mono [false, false, true, true], rfl, rfl⟩ ∧
      ThresholdsAlike ((Png.library fun _ => "").decode grayRow) :=
  ⟨by decide +kernel, (thresholdsAlike_decode grayRow).1 (Png.library fun _ => "")⟩

end WatchBitmap
