import Mathlib.Tactic.Common
import WatchBitmap.Proofs.Reading

/-!
# Compression is not seen in a picture

Whether rows are compressed is settled last, when the parts of a blob are known.  It decides about
no failure, and an image read from either blob has the same rows, for the reader gives them as they
were packed.

* `encode_any_compression` — what the encoder does is the same for every compression.
* `encode_compression` — **compression is transparent**, from the picture to the picture.
-/

namespace WatchBitmap

/-- **The encoder's outcome, for every compression at once.**  It fails in the same way, or it
writes the parts of one and the same format. -/
lemma encode_any_compression (b : PixelBuffer) (choice : FormatChoice) (selector : Option String) :
    (∃ e, ∀ compression, encode b ⟨choice, selector, compression⟩ = .error e) ∨
      ∃ (key : Option ColorKey) (format : Format), ¬ (b.width = 0 ∨ b.height = 0) ∧
        choice.Settles (distinctColors key b.colors) format ∧
        ∀ compression, encode b ⟨choice, selector, compression⟩
          = .ok (b.encodingFor key format compression).toBytes := by
  rcases refused_or_key b selector with ⟨e, hrefused, -⟩ | ⟨hdim, key, rfl⟩
  · exact Or.inl ⟨e, hrefused choice⟩
  · rcases choice.settles_or_overflows (distinctColors key b.colors) with
      ⟨format, hsettles⟩ | ⟨capacity, hcapacity, hover⟩
    · exact Or.inr ⟨key, format, hdim, hsettles, fun _ => encode_of_settles hdim rfl hsettles⟩
    · exact Or.inl ⟨_, fun _ => encode_of_overflows hdim rfl hcapacity hover⟩

/-- In the header compression sets its own flag, and nothing else. -/
lemma PixelBuffer.header_encodingFor_rows (b : PixelBuffer) (key : Option ColorKey)
    (format : Format) :
    (b.encodingFor key format .rows).header
      = { (b.encodingFor key format .none).header with
          flags := (b.encodingFor key format .none).header.flags ||| compressedFlag } := by
  simp [encodingFor, Header.ofPicture]

/-- Whichever format is settled on, the image of a blob has a picture, and compression has no part
in it. -/
lemma Image.exists_toPixelBuffer_imageFor {b : PixelBuffer} {choice : FormatChoice}
    {key : Option ColorKey} {format : Format}
    (hsettles : choice.Settles (distinctColors key b.colors) format) :
    ∃ picture, ∀ compression,
      (b.imageFor key format compression).toPixelBuffer = .ok picture :=
  ⟨b.shownIn format, toPixelBuffer_imageFor hsettles⟩

/-- **Compression is transparent.**  With and without it the encoder fails for the same reason, or
there are two blobs.  Both can be read; the images have the same rows and the same palette, their
headers differ in the flag for compression, and they show the same picture. -/
theorem encode_compression (b : PixelBuffer) (choice : FormatChoice) (selector : Option String) :
    (∃ e, encode b ⟨choice, selector, .none⟩ = .error e ∧
      encode b ⟨choice, selector, .rows⟩ = .error e) ∨
    ∃ plain coded image image',
      encode b ⟨choice, selector, .none⟩ = .ok plain ∧
      encode b ⟨choice, selector, .rows⟩ = .ok coded ∧
      Image.read plain = .ok image ∧ Image.read coded = .ok image' ∧
      image'.rows = image.rows ∧ image'.palette = image.palette ∧
      image.header.isCompressed = false ∧ image'.header.isCompressed = true ∧
      image'.header
        = { image.header with flags := image.header.flags ||| compressedFlag } ∧
      ∃ picture, image.toPixelBuffer = .ok picture ∧ image'.toPixelBuffer = .ok picture := by
  rcases encode_any_compression b choice selector with ⟨e, herror⟩ |
    ⟨key, format, hdim, hsettles, hencode⟩
  · exact Or.inl ⟨e, herror .none, herror .rows⟩
  · obtain ⟨picture, hpicture⟩ := Image.exists_toPixelBuffer_imageFor hsettles
    refine Or.inr ⟨_, _, b.imageFor key format .none, b.imageFor key format .rows,
      hencode .none, hencode .rows, Image.read_encodingFor hdim hsettles .none,
      Image.read_encodingFor hdim hsettles .rows, rfl, rfl, ?_, ?_,
      b.header_encodingFor_rows key format, picture, hpicture .none, hpicture .rows⟩
    · exact b.isCompressed_encodingFor key format .none
    · exact b.isCompressed_encodingFor key format .rows

end WatchBitmap
