import Mathlib.Data.List.Basic
import Mathlib.Tactic.Common
import Mathlib.Tactic.Ring
import WatchBitmap.Proofs.Reading

/-!
# Where things lie in an uncompressed blob

A device looks at a blob without reading it from the front: it computes where a pixel lies and
fetches one byte.  `PlainLayout` says what it finds there, and `plainLayout_of_encode` that every
uncompressed blob is laid out like that.

The argument is an offset calculation in three steps: the rows begin behind the header
(`Encoding.getElem?_rows`), each takes the declared stride (`getElem?_packRows_flatten`), and
inside a row the packing decides.
-/

namespace WatchBitmap

/-- **Fetching a value.**  What a device reads at column `x` of the row that begins at `start`: one
byte, shifted and masked. -/
def fetch? (blob : List UInt8) (start bits x : ℕ) : Option ℕ :=
  blob[start + x * bits / 8]?.map fun byte =>
    (byte.toNat >>> (8 - bits - x * bits % 8)) &&& (2 ^ bits - 1)

/-- **The layout of an uncompressed blob** of a picture, in a format and with a palette.  Row `y`
begins at `20 + y * stride`, with the stride that the format has for the picture's width. -/
structure PlainLayout (b : PixelBuffer) (format : Format) (palette : List Color)
    (blob : List UInt8) : Prop where
  /-- There is nothing but the header, the rows and the palette. -/
  length : blob.length
    = 20 + b.height.toNat * format.rowBytes b.width.toNat + 4 * palette.length
  /-- In an indexed format a pixel's value is the position of its color in the palette. -/
  index : format.isIndexed = true → ∀ x y, x < b.width.toNat → y < b.height.toNat →
    ∃ c, b.colorAt? (y * b.width.toNat + x) = some c ∧ c ∈ palette ∧
      fetch? blob (20 + y * format.rowBytes b.width.toNat) format.bitsPerPixel x
        = some (palette.idxOf c)
  /-- In the monochrome format it is the pixel's bit. -/
  bit : format.isIndexed = false → ∀ x y, x < b.width.toNat → y < b.height.toNat →
    ∃ lit, b.bitAt? (y * b.width.toNat + x) = some lit ∧
      fetch? blob (20 + y * format.rowBytes b.width.toNat) format.bitsPerPixel x
        = some lit.toNat
  /-- Behind the last pixel of a row its bits are zero.  Bit `j` counts from the row's first. -/
  padding : ∀ j y, b.width.toNat * format.bitsPerPixel ≤ j →
    j < 8 * format.rowBytes b.width.toNat → y < b.height.toNat →
    ∃ byte, blob[20 + y * format.rowBytes b.width.toNat + j / 8]? = some byte ∧
      byte.toNat.testBit (7 - j % 8) = false
  /-- The palette follows the rows, four bytes for each entry. -/
  table : ∀ k c, palette[k]? = some c → ∀ i < 4,
    blob[20 + b.height.toNat * format.rowBytes b.width.toNat + 4 * k + i]?
      = [c.r, c.g, c.b, c.a][i]?

/-! ## The parts by their offsets -/

lemma Encoding.length_toBytes (e : Encoding) :
    e.toBytes.length = headerSize + e.rows.length + 4 * e.palette.length := by
  rw [Encoding.toBytes, List.length_append, List.length_append, Palette.length_tableBytes,
    Header.length_toBytes, Nat.mul_comm 4]

lemma Encoding.getElem?_rows (e : Encoding) {i : ℕ} (hi : i < e.rows.length) :
    e.toBytes[headerSize + i]? = e.rows[i]? := by
  rw [Encoding.toBytes, List.append_assoc, ← Header.length_toBytes e.header,
    List.getElem?_append_right (Nat.le_add_right _ _), Nat.add_sub_cancel_left,
    List.getElem?_append_left hi]

lemma Encoding.getElem?_table (e : Encoding) (i : ℕ) :
    e.toBytes[headerSize + e.rows.length + i]? = (Palette.tableBytes e.palette)[i]? := by
  have hlen : (e.header.toBytes ++ e.rows).length = headerSize + e.rows.length := by
    rw [List.length_append, Header.length_toBytes]
  rw [Encoding.toBytes, ← hlen, List.getElem?_append_right (Nat.le_add_right _ _),
    Nat.add_sub_cancel_left]

lemma Palette.getElem?_tableBytes {palette : List Color} {k i : ℕ} {c : Color}
    (hk : palette[k]? = some c) (hi : i < 4) :
    (Palette.tableBytes palette)[4 * k + i]? = [c.r, c.g, c.b, c.a][i]? := by
  rw [tableBytes, Nat.mul_comm,
    getElem?_flatMap_blocks (fun c _ => Color.length_toBytes c) k hi, hk, Option.bind_some]
  rfl

section PackedRows

variable (format : Format) {width height : ℕ} {values : List UInt8}

/-- Byte `j` of row `y` lies `y` strides and `j` bytes behind the first. -/
lemma getElem?_packRows_flatten (hlen : values.length = width * height) {y j : ℕ}
    (hy : y < height) (hj : j < format.rowBytes width) :
    (packRows format width height values).flatten[y * format.rowBytes width + j]?
      = (BitPacking.packRow format.bitsPerPixel ((values.drop (y * width)).take width))[j]? := by
  rw [packRows, ← List.flatMap_def,
    getElem?_flatMap_blocks (fun _ hvs => length_packRow_of_mem_splitRows format hlen hvs) y hj,
    getElem?_splitRows hy, Option.bind_some]

end PackedRows

/-! ## The layout of what the encoder writes -/

namespace PixelBuffer

variable {b : PixelBuffer} {choice : FormatChoice} {key : Option ColorKey} {format : Format}

/-- The values of row `y`. -/
def rowFor (b : PixelBuffer) (key : Option ColorKey) (format : Format) (y : ℕ) : List UInt8 :=
  ((b.valuesFor key format).drop (y * b.width.toNat)).take b.width.toNat

/-- Value `x` of row `y` is value `y * width + x` of the picture. -/
lemma getElem?_rowFor (b : PixelBuffer) (key : Option ColorKey) (format : Format) (y : ℕ) {x : ℕ}
    (hx : x < b.width.toNat) :
    (b.rowFor key format y)[x]? = (b.valuesFor key format)[y * b.width.toNat + x]? := by
  rw [rowFor, List.getElem?_take_of_lt hx, List.getElem?_drop]

/-- A row that lies in the picture has the picture's width. -/
lemma length_rowFor (b : PixelBuffer) (key : Option ColorKey) (format : Format) {y : ℕ}
    (hy : y < b.height.toNat) : (b.rowFor key format y).length = b.width.toNat :=
  length_of_mem_splitRows (b.length_valuesFor key format)
    (List.mem_of_getElem? (getElem?_splitRows hy (b.valuesFor key format)))

lemma length_packRow_rowFor (b : PixelBuffer) (key : Option ColorKey) (format : Format) {y : ℕ}
    (hy : y < b.height.toNat) :
    (BitPacking.packRow format.bitsPerPixel (b.rowFor key format y)).length
      = format.rowBytes b.width.toNat :=
  length_packRow_of_mem_splitRows format (b.length_valuesFor key format)
    (List.mem_of_getElem? (getElem?_splitRows hy (b.valuesFor key format)))

lemma length_rows_encodingFor (b : PixelBuffer) (key : Option ColorKey) (format : Format) :
    (b.encodingFor key format .none).rows.length
      = b.height.toNat * format.rowBytes b.width.toNat := by
  rw [b.rows_encodingFor_none, length_flatten_packRows format (b.length_valuesFor key format),
    Nat.mul_comm]

/-- **A byte of a row in the blob** is the byte of the packed row. -/
lemma getElem?_toBytes_encodingFor (b : PixelBuffer) (key : Option ColorKey) (format : Format)
    {y j : ℕ} (hy : y < b.height.toNat) (hj : j < format.rowBytes b.width.toNat) :
    (b.encodingFor key format .none).toBytes[20 + y * format.rowBytes b.width.toNat + j]?
      = (BitPacking.packRow format.bitsPerPixel (b.rowFor key format y))[j]? := by
  have hoffset : y * format.rowBytes b.width.toNat + j
      < (b.encodingFor key format .none).rows.length := by
    rw [b.length_rows_encodingFor]
    exact mul_add_lt_mul hy hj
  rw [Nat.add_assoc]
  refine (Encoding.getElem?_rows _ hoffset).trans ?_
  rw [b.rows_encodingFor_none,
    getElem?_packRows_flatten format (b.length_valuesFor key format) hy hj, rowFor]

/-- **What is fetched** from the place of a pixel is the pixel's value. -/
lemma fetch?_encodingFor (hsettles : choice.Settles (distinctColors key b.colors) format)
    {x y : ℕ} (hx : x < b.width.toNat) (hy : y < b.height.toNat) {value : UInt8}
    (hvalue : (b.valuesFor key format)[y * b.width.toNat + x]? = some value) :
    fetch? (b.encodingFor key format .none).toBytes
        (20 + y * format.rowBytes b.width.toNat) format.bitsPerPixel x
      = some value.toNat := by
  have hrow : (b.rowFor key format y)[x]? = some value := by
    rw [b.getElem?_rowFor key format y hx, hvalue]
  obtain ⟨byte, hbyte, hfield⟩ :=
    BitPacking.shiftRight_and_packRow format.bitsPerPixel_dvd hrow
  have hj : x * format.bitsPerPixel / 8 < format.rowBytes b.width.toNat := by
    rw [← b.length_packRow_rowFor key format hy]
    exact (List.getElem?_eq_some_iff.1 hbyte).1
  have hfits := b.toNat_lt_of_mem_valuesFor hsettles (List.mem_of_getElem? hvalue)
  rw [fetch?, b.getElem?_toBytes_encodingFor key format hy hj, hbyte, Option.map_some, hfield,
    Nat.mod_eq_of_lt hfits]

lemma getElem?_valuesFor_of_isIndexed (hindexed : format.isIndexed = true) {i : ℕ} {c : Color}
    (hc : b.colorAt? i = some c) : (b.valuesFor key format)[i]? = some (b.indexFor key c) := by
  rw [b.valuesFor_of_isIndexed key hindexed, List.getElem?_map, b.getElem?_colors, hc,
    Option.map_some]

lemma getElem?_valuesFor_of_not_isIndexed (hmono : format.isIndexed = false) {i : ℕ} {bit : Bool}
    (hbit : b.bitAt? i = some bit) : (b.valuesFor key format)[i]? = some (bitValue bit) := by
  rw [valuesFor, if_neg (by rw [hmono]; exact Bool.false_ne_true), List.getElem?_map,
    b.getElem?_bits, hbit, Option.map_some]

/-- **The blob of an uncompressed picture has the layout**, in the format that was settled. -/
lemma plainLayout_encodingFor
    (hsettles : choice.Settles (distinctColors key b.colors) format) :
    PlainLayout b format (b.paletteFor key format) (b.encodingFor key format .none).toBytes where
  length := by
    rw [Encoding.length_toBytes, b.length_rows_encodingFor]
    rfl
  index := by
    intro hindexed x y hx hy
    obtain ⟨c, -, hc, -⟩ := b.exists_at hx hy
    have hmem := mem_colors_of_colorAt? hc
    have hpalette := b.paletteFor_of_isIndexed key hindexed
    have hfits := hsettles.le_widest hindexed
    refine ⟨c, hc, by rw [hpalette]; exact mem_firstSeen hmem key, ?_⟩
    rw [fetch?_encodingFor hsettles hx hy (getElem?_valuesFor_of_isIndexed hindexed hc),
      b.toNat_indexFor hfits hmem, hpalette]
  bit := by
    intro hmono x y hx hy
    obtain ⟨-, bit, -, hbit⟩ := b.exists_at hx hy
    refine ⟨bit, hbit, ?_⟩
    rw [fetch?_encodingFor hsettles hx hy (getElem?_valuesFor_of_not_isIndexed hmono hbit)]
    cases bit <;> rfl
  padding := by
    intro j y hbehind hj hy
    have hbehind' : (b.rowFor key format y).length * format.bitsPerPixel ≤ j := by
      rw [b.length_rowFor key format hy]
      exact hbehind
    have hj' : j < (BitPacking.packRow format.bitsPerPixel (b.rowFor key format y)).length * 8 := by
      rw [b.length_packRow_rowFor key format hy, Nat.mul_comm]
      exact hj
    obtain ⟨byte, hbyte, hzero⟩ :=
      BitPacking.testBit_packRow_padding format.bitsPerPixel_dvd hbehind' hj'
    refine ⟨byte, ?_, hzero⟩
    rw [b.getElem?_toBytes_encodingFor key format hy (Nat.div_lt_of_lt_mul hj), hbyte]
  table := by
    intro k c hk i hi
    have htable := Encoding.getElem?_table (b.encodingFor key format .none) (4 * k + i)
    rw [b.length_rows_encodingFor, ← Nat.add_assoc] at htable
    exact htable.trans (Palette.getElem?_tableBytes hk hi)

end PixelBuffer

/-- **The layout of an uncompressed blob.**  The third byte names the format that the choice comes
to; the palette lists the key's color and the picture's, each where it is first seen, and is empty
in the monochrome format; and the bytes lie as `PlainLayout` says. -/
theorem plainLayout_of_encode {b : PixelBuffer} {options : EncodeOptions} {blob : List UInt8}
    (hplain : options.compression = .none) (h : encode b options = .ok blob) :
    ∃ (key : Option ColorKey) (format : Format),
      options.colorKey = key.map ColorKey.name ∧
      options.format.Settles (distinctColors key b.colors) format ∧
      blob[2]? = some format.tag ∧
      PlainLayout b format (if format.isIndexed then firstSeen key b.colors else []) blob := by
  obtain ⟨key, format, -, hkey, hsettles, rfl⟩ := encode_eq_ok h
  rw [hplain]
  exact ⟨key, format, hkey, hsettles, rfl, PixelBuffer.plainLayout_encodingFor hsettles⟩

/-- Four colors in rows of three pixels.  A white key is a fifth color, for which two bits are not
enough. -/
def fourColors : PixelBuffer where
  width := 3
  height := 2
  data := .indexed [0, 1, 2, 3, 2, 1]
    [⟨255, 0, 0, 255⟩, ⟨0, 255, 0, 255⟩, ⟨0, 0, 255, 255⟩, ⟨0, 0, 0, 0⟩]
  size_eq := rfl
  badIndex_eq := rfl

/-- The blob of `fourColors`: each row has a value in its second byte and padding behind it. -/
def fourColorsBlob : List UInt8 :=
  [1, 0, 2, 5, 3, 0, 0, 0, 2, 0, 0, 0, 2, 0, 0, 0, 5, 0, 0, 0, 0x12, 0x30, 0x43, 0x20,
    255, 255, 255, 255, 255, 0, 0, 255, 0, 255, 0, 255, 0, 0, 255, 255, 0, 0, 0, 0]

theorem plainLayout_of_encode_fourColors :
    encode fourColors ⟨.smallestIndexed, some "WHITE", .none⟩ = .ok fourColorsBlob ∧
    ∃ (key : Option ColorKey) (format : Format),
      some "WHITE" = key.map ColorKey.name ∧
      FormatChoice.smallestIndexed.Settles (distinctColors key fourColors.colors) format ∧
      fourColorsBlob[2]? = some format.tag ∧
      PlainLayout fourColors format
        (if format.isIndexed then firstSeen key fourColors.colors else []) fourColorsBlob := by
  have hencode : encode fourColors ⟨.smallestIndexed, some "WHITE", .none⟩
      = .ok fourColorsBlob := rfl
  exact ⟨hencode, plainLayout_of_encode rfl hencode⟩

end WatchBitmap
