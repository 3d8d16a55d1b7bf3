import Mathlib.Data.List.Basic
import Mathlib.Tactic.Common
import WatchBitmap.Proofs.Acceptance
import WatchBitmap.Proofs.Layout

/-!
# Images read from arbitrary bytes

Nothing is known of the bytes that are read.  They may declare billions of rows, be coded against
the rules, or have a palette that is too short for the indices in the rows.  None of that makes the
reader look where nothing is, and an image that was read can be asked for everything it should have.

* `Image.readSliced?`, `Image.readSliced?_eq` — the reader with each of its cuts checked: **none of
  them is out of range.**
* `Image.Complete` — there are as many rows and palette entries as the header declares; the values
  and the place of each follow (`Image.Complete.pixelValues?_eq`, `Image.Complete.fetch?_rows`).
* `Image.Sound`, `read_sound` — **what an image that was read is good for.**
-/

namespace WatchBitmap

/-! ## Cuts -/

/-- The bytes from an offset on, or `none` if the offset lies behind the end. -/
def sliceFrom? (bytes : List UInt8) (offset : ℕ) : Option (List UInt8) :=
  if offset ≤ bytes.length then some (bytes.drop offset) else none

namespace PackBits

/-- Expands rows of a body from an offset on, as `expandRows` does.  Each is cut out where the one
before it ended. -/
def expandRowsSliced? (stride : ℕ) (body : List UInt8) :
    (height offset : ℕ) → Option RowsExpansion
  | 0, _ => some ⟨⟨[], 0, none⟩, 0⟩
  | height + 1, offset =>
      (sliceFrom? body offset).bind fun input =>
        let row := expandRow stride input
        match row.error? with
        | some error => some ⟨⟨row.bytes, row.used, some error⟩, 0⟩
        | none =>
            (expandRowsSliced? stride body height (offset + row.used)).map fun rest =>
              ⟨⟨row.bytes ++ rest.bytes, row.used + rest.used, rest.error?⟩, rest.rows + 1⟩

/-- A row that is complete used no more bytes than there were. -/
lemma used_expandRow_le {stride : ℕ} {input : List UInt8}
    (h : (expandRow stride input).error? = none) :
    (expandRow stride input).used ≤ input.length := by
  obtain ⟨ts, rest, hrow, rfl⟩ := exists_row_of_expandRow h
  rw [hrow.expandRow_append, List.length_append]
  exact Nat.le_add_right _ _

/-- **No row is cut out behind the end.**  What is kept from row to row is that the offset lies in
the body, for a row that was complete ended there. -/
lemma expandRowsSliced?_eq (stride : ℕ) (body : List UInt8) {height offset : ℕ}
    (hoffset : offset ≤ body.length) :
    expandRowsSliced? stride body height offset
      = some (expandRows stride height (body.drop offset)) := by
  induction height generalizing offset with
  | zero => rfl
  | succ height ih =>
      rw [expandRowsSliced?, sliceFrom?, if_pos hoffset, Option.bind_some, expandRows]
      cases herror : (expandRow stride (body.drop offset)).error? with
      | some error => simp only [herror]
      | none =>
          have hused := used_expandRow_le herror
          rw [List.length_drop] at hused
          have hnext : offset + (expandRow stride (body.drop offset)).used ≤ body.length := by
            omega
          simp only [herror, ih hnext, Option.map_some, List.drop_drop]

end PackBits

namespace Image

/-- The rows of a body, as `readRows` finds them.  Without compression nothing is cut that was not
looked for. -/
def readRowsSliced? (header : Header) (blobSize : ℕ) (body : List UInt8) :
    Option (Except ReadError (List UInt8 × ℕ)) :=
  if header.isCompressed then
    (PackBits.expandRowsSliced? header.rowStride.toNat body header.height.toNat 0).map fun e =>
      match e.error? with
      | some error => .error (.row error)
      | none => .ok (e.bytes, e.used)
  else
    some (readRows header blobSize body)

/-- **The reader with its cuts checked**: `none` if the body is cut off behind the end of the bytes,
or a row or the table behind the end of the body. -/
def readSliced? (bytes : List UInt8) : Option (Except ReadError Image) :=
  match Header.read bytes with
  | .error e => some (.error e)
  | .ok header =>
      (sliceFrom? bytes headerSize).bind fun body =>
        (readRowsSliced? header bytes.length body).bind fun found =>
          match found with
          | .error e => some (.error e)
          | .ok (rows, used) =>
              (sliceFrom? body used).map fun table =>
                if table.length = header.paletteSize.toNat * 4 then
                  .ok ⟨header, rows, Color.ofBytes table⟩
                else
                  .error (.paletteMismatch (header.paletteSize.toNat * 4) table.length)

lemma readRowsSliced?_eq (header : Header) (blobSize : ℕ) (body : List UInt8) :
    readRowsSliced? header blobSize body = some (readRows header blobSize body) := by
  rw [readRowsSliced?]
  cases hcoded : header.isCompressed with
  | false => rw [if_neg Bool.false_ne_true]
  | true =>
      rw [if_pos rfl, PackBits.expandRowsSliced?_eq _ _ (Nat.zero_le _), List.drop_zero,
        Option.map_some]
      exact congrArg some (if_pos hcoded).symm

/-- **No cut is out of range**: the reader never finds out of a check that it had to fail. -/
theorem readSliced?_eq (bytes : List UInt8) : readSliced? bytes = some (Image.read bytes) := by
  rw [readSliced?]
  cases hheader : Header.read bytes with
  | error e => simp only [read_eq_error_of_header hheader]
  | ok header =>
      have hsize := Header.headerSize_le_of_read hheader
      simp only [sliceFrom?, if_pos hsize, Option.bind_some, readRowsSliced?_eq]
      cases hrows : readRows header bytes.length (bytes.drop headerSize) with
      | error e => simp only [read_eq_error_of_readRows hheader hrows]
      | ok found =>
          obtain ⟨rows, used⟩ := found
          obtain ⟨streams, data, rest, -, hbody, rfl⟩ := exists_storedRows_of_readRows hrows
          have hused : data.length ≤ (bytes.drop headerSize).length := by
            rw [hbody, List.length_append]
            exact Nat.le_add_right _ _
          simp only [if_pos hused, Option.map_some, read_eq_of_readRows hheader hrows]

end Image

/-! ## Values by their place -/

namespace BitPacking

variable {bits : ℕ}

/-- A value is fetched from its slot, wherever the row begins. -/
lemma fetch?_eq_map_slotValue (hbits : bits ∣ 8) (bytes : List UInt8) (start x : ℕ) :
    fetch? bytes start bits x
      = (bytes[start + x / slotsPerByte bits]?.map
          (slotValue bits (x % slotsPerByte bits))).map UInt8.toNat := by
  rw [fetch?, mul_bits_div hbits, sub_mul_bits_mod hbits, Option.map_map]
  congr 1
  funext byte
  rw [Function.comp_apply, toNat_slotValue hbits, Nat.and_two_pow_sub_one_eq_mod]

/-- Bit `j` of some bytes, counted from the most significant bit of the first. -/
def bit? (bytes : List UInt8) (j : ℕ) : Option Bool :=
  bytes[j / 8]?.map fun byte => byte.toNat.testBit (7 - j % 8)

/-- Bit `i` of a value, counted from its highest, by the byte that it is in. -/
lemma bit?_eq (hbits : bits ∣ 8) (bytes : List UInt8) (start x : ℕ) {i : ℕ} (hi : i < bits) :
    bit? bytes (8 * start + (x * bits + i))
      = bytes[start + x * bits / 8]?.map fun byte =>
          byte.toNat.testBit (8 - bits - x * bits % 8 + (bits - 1 - i)) := by
  -- a slot ends in the byte in which it begins, so all its bits are in that byte
  have hroom := mul_bits_mod_add_le hbits x
  have hbyte : (8 * start + (x * bits + i)) / 8 = start + x * bits / 8 := by omega
  have hplace : 7 - (8 * start + (x * bits + i)) % 8
      = 8 - bits - x * bits % 8 + (bits - 1 - i) := by omega
  rw [bit?, hbyte, hplace]

/-- **A value depends on its own bits**, and on no others of its byte. -/
lemma fetch?_congr (hbits : bits ∣ 8) {bytes bytes' : List UInt8} {start x : ℕ}
    (h : ∀ i < bits, bit? bytes (8 * start + (x * bits + i))
      = bit? bytes' (8 * start + (x * bits + i))) :
    fetch? bytes start bits x = fetch? bytes' start bits x := by
  have hsame : ∀ i < bits, _ := fun i hi =>
    ((bit?_eq hbits bytes start x hi).symm.trans (h i hi)).trans (bit?_eq hbits bytes' start x hi)
  rw [fetch?, fetch?]
  generalize bytes[start + x * bits / 8]? = found at hsame ⊢
  generalize bytes'[start + x * bits / 8]? = found' at hsame ⊢
  rcases found with _ | byte <;> rcases found' with _ | byte'
  · rfl
  · exact absurd (hsame 0 (bits_pos hbits)) (by simp)
  · exact absurd (hsame 0 (bits_pos hbits)) (by simp)
  · simp only [Option.map_some, Option.some.injEq] at hsame ⊢
    refine Nat.eq_of_testBit_eq fun n => ?_
    rw [Nat.testBit_and, Nat.testBit_and, Nat.testBit_two_pow_sub_one, Nat.testBit_shiftRight,
      Nat.testBit_shiftRight]
    -- bit `n` from below is bit `bits - 1 - n` from above, or is masked away
    by_cases hn : n < bits
    · have hbit := hsame (bits - 1 - n) (by omega)
      rw [show bits - 1 - (bits - 1 - n) = n by omega] at hbit
      rw [hbit]
    · rw [decide_eq_false hn, Bool.and_false, Bool.and_false]

end BitPacking

/-! ## Images that were read -/

namespace Image

/-- The values of all pixels, row by row. -/
def values (image : Image) : List UInt8 :=
  image.packedRows.flatMap fun row =>
    (BitPacking.slots image.header.format.bitsPerPixel row).take image.header.width.toNat

/-- **What reading makes sure of.**  The header is well formed, and there are as many rows and
palette entries as it declares. -/
structure Complete (image : Image) : Prop where
  header : image.header.WellFormed
  rows : image.rows.length = image.header.rowStride.toNat * image.header.height.toNat
  palette : image.palette.length = image.header.paletteSize.toNat

theorem complete_of_read {bytes : List UInt8} {image : Image} (h : Image.read bytes = .ok image) :
    image.Complete := by
  obtain ⟨hheader, streams, data, table, hdivides, hpalette⟩ := exists_divides_of_read h
  refine ⟨Header.wellFormed_of_read hheader, hdivides.stored.length_rows, ?_⟩
  rw [hpalette]
  exact Color.length_ofBytes (hdivides.table.trans (Nat.mul_comm _ _))

namespace Complete

variable {image : Image}

lemma row?_eq (h : image.Complete) {y : ℕ} (hy : y < image.header.height.toNat) :
    image.row? y = some ((image.rows.drop (y * image.header.rowStride.toNat)).take
      image.header.rowStride.toNat) := by
  have hle : y * image.header.rowStride.toNat + image.header.rowStride.toNat
      ≤ image.rows.length := by
    rw [h.rows, ← Nat.succ_mul, Nat.mul_comm]
    exact Nat.mul_le_mul_left _ hy
  rw [row?, if_pos hle]

/-- A row has a slot for each value. -/
lemma width_le (h : image.Complete) {row : List UInt8} (hrow : row ∈ image.packedRows) :
    image.header.width.toNat
      ≤ row.length * BitPacking.slotsPerByte image.header.format.bitsPerPixel := by
  rw [length_of_mem_splitRows h.rows hrow, h.header.rowStride_toNat, Format.rowBytes]
  exact BitPacking.le_mul_slotsPerByte (Format.bitsPerPixel_dvd _) _

/-- **All values can be unpacked.** -/
lemma pixelValues?_eq (h : image.Complete) : image.pixelValues? = some image.values := by
  have hunpack : image.packedRows.mapM (BitPacking.unpackRow? image.header.format.bitsPerPixel
      image.header.width.toNat) = some (image.packedRows.map fun row =>
        (BitPacking.slots image.header.format.bitsPerPixel row).take image.header.width.toNat) :=
    mapM_eq_pure fun row hrow => BitPacking.unpackRow?_eq (h.width_le hrow)
  rw [pixelValues?, hunpack, Option.map_some, ← List.flatMap_def, values]

lemma length_values (h : image.Complete) :
    image.values.length = image.header.width.toNat * image.header.height.toNat := by
  rw [values, length_flatMap_blocks fun row hrow =>
    BitPacking.length_take_slots (h.width_le hrow), packedRows, length_splitRows, Nat.mul_comm]

/-- **A value by its place.**  The value of a pixel is fetched from its slot in its row. -/
lemma fetch?_rows (h : image.Complete) {x y : ℕ} (hx : x < image.header.width.toNat)
    (hy : y < image.header.height.toNat) :
    fetch? image.rows (y * image.header.rowStride.toNat) image.header.format.bitsPerPixel x
      = image.values[y * image.header.width.toNat + x]?.map UInt8.toNat := by
  have hbits := image.header.format.bitsPerPixel_dvd
  have hrow : image.packedRows[y]? = some ((image.rows.drop
      (y * image.header.rowStride.toNat)).take image.header.rowStride.toNat) :=
    getElem?_splitRows hy image.rows
  have hwidth := h.width_le (List.mem_of_getElem? hrow)
  rw [length_of_mem_splitRows h.rows (List.mem_of_getElem? hrow)] at hwidth
  have hbyte : x / BitPacking.slotsPerByte image.header.format.bitsPerPixel
      < image.header.rowStride.toNat :=
    (Nat.div_lt_iff_lt_mul (BitPacking.slotsPerByte_pos hbits)).2 (Nat.lt_of_lt_of_le hx hwidth)
  rw [values, getElem?_flatMap_blocks
      (fun row hrow => BitPacking.length_take_slots (h.width_le hrow)) y hx, hrow,
    Option.bind_some, List.getElem?_take_of_lt hx, BitPacking.getElem?_slots hbits,
    List.getElem?_take_of_lt hbyte, List.getElem?_drop, BitPacking.fetch?_eq_map_slotValue hbits]

lemma exists_value (h : image.Complete) {x y : ℕ} (hx : x < image.header.width.toNat)
    (hy : y < image.header.height.toNat) :
    ∃ value, image.values[y * image.header.width.toNat + x]? = some value := by
  have hlt : y * image.header.width.toNat + x < image.values.length := by
    rw [h.length_values, Nat.mul_comm image.header.width.toNat]
    exact mul_add_lt_mul hy hx
  exact ⟨_, List.getElem?_eq_getElem hlt⟩

/-- Images whose pixels have the same values where these are fetched have the same values. -/
lemma values_congr {image' : Image} (h : image.Complete) (h' : image'.Complete)
    (hheader : image'.header = image.header)
    (hfetch : ∀ x y, x < image.header.width.toNat → y < image.header.height.toNat →
      fetch? image'.rows (y * image.header.rowStride.toNat) image.header.format.bitsPerPixel x
        = fetch? image.rows (y * image.header.rowStride.toNat) image.header.format.bitsPerPixel x) :
    image'.values = image.values := by
  have hlength := h'.length_values
  have hplace : ∀ x y, x < image'.header.width.toNat → y < image'.header.height.toNat → _ :=
    fun x y hx hy => h'.fetch?_rows hx hy
  rw [hheader] at hlength hplace
  -- pixel `i` stands at column `i % width` of row `i / width`; behind the last there is none
  refine List.ext_getElem? fun i => ?_
  rcases Nat.lt_or_ge i (image.header.width.toNat * image.header.height.toNat) with hi | hi
  · have hx : i % image.header.width.toNat < image.header.width.toNat :=
      Nat.mod_lt i (Nat.pos_of_ne_zero (fun hzero => by simp [hzero] at hi))
    have hy : i / image.header.width.toNat < image.header.height.toNat :=
      Nat.div_lt_of_lt_mul hi
    have hsame := (hplace _ _ hx hy).symm.trans ((hfetch _ _ hx hy).trans (h.fetch?_rows hx hy))
    rw [Nat.div_add_mod'] at hsame
    exact Option.map_injective (fun _ _ => UInt8.toNat_inj.1) hsame
  · rw [List.getElem?_eq_none (by rw [hlength]; exact hi),
      List.getElem?_eq_none (by rw [h.length_values]; exact hi)]

end Complete

/-! ## Pictures -/

/-- The values that have no palette entry. -/
def lacks (image : Image) (value : UInt8) : Bool :=
  decide (image.palette.length ≤ value.toNat)

/-- **Looking up values** goes on up to the first that has no palette entry. -/
lemma mapM_colorOf (image : Image) (vs : List UInt8) :
    vs.mapM image.colorOf
      = match vs.find? image.lacks with
        | some index => .error (.indexOutOfRange index image.palette.length)
        | none => .ok (vs.filterMap fun v => image.palette[v.toNat]?) := by
  induction vs with
  | nil => rfl
  | cons v vs ih =>
      rw [List.mapM_cons, colorOf, List.find?_cons]
      by_cases hv : image.palette.length ≤ v.toNat
      · simp [lacks, hv, bind, Except.bind]
      · have hentry := List.getElem?_eq_getElem (Nat.lt_of_not_le hv)
        have hlacks : image.lacks v = false := decide_eq_false hv
        simp only [hentry, hlacks, ih, bind, Except.bind, List.filterMap_cons]
        cases vs.find? image.lacks <;> rfl

lemma exists_ofColors (width height : UInt32) {colors : List Color}
    (h : colors.length = width.toNat * height.toNat) :
    ∃ picture, PixelBuffer.ofColors width height colors = .ok picture :=
  ⟨_, PixelBuffer.ofData_self ⟨width, height, .rgba colors, h, rfl⟩⟩

lemma exists_ofBits (width height : UInt32) {bits : List Bool}
    (h : bits.length = width.toNat * height.toNat) :
    ∃ picture, PixelBuffer.ofBits width height bits = .ok picture :=
  ⟨_, PixelBuffer.ofData_self ⟨width, height, .mono bits, h, rfl⟩⟩

namespace Complete

variable {image : Image}

/-- **A monochrome image has a picture.** -/
lemma exists_toPixelBuffer_of_monochrome (h : image.Complete)
    (hmono : image.header.format.isIndexed = false) :
    ∃ picture, image.toPixelBuffer = .ok picture := by
  have hlength : (image.values.map (· != 0)).length
      = image.header.width.toNat * image.header.height.toNat := by
    rw [List.length_map, h.length_values]
  obtain ⟨picture, hpicture⟩ := exists_ofBits _ _ hlength
  refine ⟨picture, ?_⟩
  rw [toPixelBuffer, h.pixelValues?_eq]
  simp only [hmono, Bool.false_eq_true, if_false, hpicture]
  rfl

/-- **An indexed image has a picture** if each value has a palette entry. -/
lemma exists_toPixelBuffer_of_find?_eq_none (h : image.Complete)
    (hindexed : image.header.format.isIndexed = true)
    (hnone : image.values.find? image.lacks = none) :
    ∃ picture, image.toPixelBuffer = .ok picture := by
  have hcolors := image.mapM_colorOf image.values
  rw [hnone] at hcolors
  have hlength := @PixelData.length_colors (.indexed image.values image.palette)
    (by rw [PixelData.badIndex?]; exact congrArg _ hnone)
  obtain ⟨picture, hpicture⟩ := exists_ofColors _ _ (hlength.trans h.length_values)
  refine ⟨picture, ?_⟩
  rw [toPixelBuffer, h.pixelValues?_eq]
  simp only [hindexed, if_true, hcolors, bind, Except.bind]
  exact congrArg bufferOf hpicture

/-- **The first value without a palette entry** is the one that is complained of. -/
lemma toPixelBuffer_of_find?_eq_some (h : image.Complete)
    (hindexed : image.header.format.isIndexed = true) {index : UInt8}
    (hsome : image.values.find? image.lacks = some index) :
    image.toPixelBuffer = .error (.indexOutOfRange index image.palette.length) := by
  have hcolors := image.mapM_colorOf image.values
  rw [hsome] at hcolors
  rw [toPixelBuffer, h.pixelValues?_eq]
  simp only [hindexed, if_true, hcolors, bind, Except.bind]

/-- **What can become of a picture**: it is there, or the image is an indexed one and the first
value without a palette entry is complained of. -/
lemma toPixelBuffer_cases (h : image.Complete) :
    ((∃ picture, image.toPixelBuffer = .ok picture) ∧
      (image.header.format.isIndexed = true → image.values.find? image.lacks = none)) ∨
    (image.header.format.isIndexed = true ∧ ∃ index, image.values.find? image.lacks = some index ∧
      image.toPixelBuffer = .error (.indexOutOfRange index image.palette.length)) := by
  cases hindexed : image.header.format.isIndexed with
  | false => exact Or.inl ⟨h.exists_toPixelBuffer_of_monochrome hindexed, by simp⟩
  | true =>
      cases hfind : image.values.find? image.lacks with
      | none =>
          exact Or.inl ⟨h.exists_toPixelBuffer_of_find?_eq_none hindexed hfind, fun _ => rfl⟩
      | some index =>
          exact Or.inr ⟨rfl, index, rfl, h.toPixelBuffer_of_find?_eq_some hindexed hfind⟩

end Complete

/-- **Padding does not matter.**  Rows that agree in the bits of all pixels show
the same picture. -/
lemma Complete.toPixelBuffer_congr {image : Image} (h : image.Complete) {rows : List UInt8}
    (hlength : rows.length = image.rows.length)
    (hbits : ∀ y < image.header.height.toNat,
      ∀ j < image.header.width.toNat * image.header.format.bitsPerPixel,
        BitPacking.bit? rows (8 * (y * image.header.rowStride.toNat) + j)
          = BitPacking.bit? image.rows (8 * (y * image.header.rowStride.toNat) + j)) :
    ({ image with rows := rows } : Image).toPixelBuffer = image.toPixelBuffer := by
  have h' : ({ image with rows := rows } : Image).Complete :=
    ⟨h.header, hlength.trans h.rows, h.palette⟩
  have hvalues : ({ image with rows := rows } : Image).values = image.values := by
    refine h.values_congr h' rfl fun x y hx hy => ?_
    refine BitPacking.fetch?_congr image.header.format.bitsPerPixel_dvd fun i hi => ?_
    exact hbits y hy _ (mul_add_lt_mul hx hi)
  rw [toPixelBuffer, toPixelBuffer, h'.pixelValues?_eq, h.pixelValues?_eq, hvalues]
  rfl

/-- **What an image that was read is good for.** -/
structure Sound (image : Image) (values : List UInt8) : Prop where
  rows : image.rows.length = image.header.rowStride.toNat * image.header.height.toNat
  palette : image.palette.length = image.header.paletteSize.toNat
  row : ∀ y < image.header.height.toNat, ∃ row, image.row? y = some row ∧
    row.length = image.header.rowStride.toNat
  pixelValues : image.pixelValues? = some values
  length : values.length = image.header.width.toNat * image.header.height.toNat
  /-- The value of a pixel is what is fetched from its place in the rows. -/
  value : ∀ x y, x < image.header.width.toNat → y < image.header.height.toNat →
    ∃ value, values[y * image.header.width.toNat + x]? = some value ∧
      fetch? image.rows (y * image.header.rowStride.toNat) image.header.format.bitsPerPixel x
        = some value.toNat
  /-- The distance by which a value is brought down to the end of its byte is not negative. -/
  shift : ∀ x, image.header.format.bitsPerPixel
    * (x % BitPacking.slotsPerByte image.header.format.bitsPerPixel + 1) ≤ 8
  monochrome : image.header.format.isIndexed = false → ∃ picture, image.toPixelBuffer = .ok picture
  /-- An indexed image fails exactly if there is a value without a palette entry. -/
  fails_iff : image.header.format.isIndexed = true →
    ((∃ e, image.toPixelBuffer = .error e) ↔ ∃ v ∈ values, image.palette.length ≤ v.toNat)
  /-- And then it is the first of these values that is complained of. -/
  error : ∀ e, image.toPixelBuffer = .error e →
    ∃ index, values.find? (fun v => decide (image.palette.length ≤ v.toNat)) = some index ∧
      e = .indexOutOfRange index image.palette.length
  /-- Only the bits of pixels count, not those behind the last pixel of a row. -/
  padding : ∀ rows : List UInt8, rows.length = image.rows.length →
    (∀ y < image.header.height.toNat,
      ∀ j < image.header.width.toNat * image.header.format.bitsPerPixel,
        BitPacking.bit? rows (8 * (y * image.header.rowStride.toNat) + j)
          = BitPacking.bit? image.rows (8 * (y * image.header.rowStride.toNat) + j)) →
    ({ image with rows := rows } : Image).toPixelBuffer = image.toPixelBuffer

lemma Complete.sound {image : Image} (h : image.Complete) : image.Sound image.values where
  rows := h.rows
  palette := h.palette
  row := by
    intro y hy
    refine ⟨_, h.row?_eq hy, ?_⟩
    exact length_of_mem_splitRows h.rows (List.mem_of_getElem? (getElem?_splitRows hy image.rows))
  pixelValues := h.pixelValues?_eq
  length := h.length_values
  value := by
    intro x y hx hy
    obtain ⟨value, hvalue⟩ := h.exists_value hx hy
    exact ⟨value, hvalue, by rw [h.fetch?_rows hx hy, hvalue, Option.map_some]⟩
  shift := by
    intro x
    have hbits := image.header.format.bitsPerPixel_dvd
    have hlt := Nat.mod_lt x (BitPacking.slotsPerByte_pos hbits)
    exact (Nat.mul_le_mul_left _ hlt).trans_eq (BitPacking.bits_mul_slotsPerByte hbits)
  monochrome := h.exists_toPixelBuffer_of_monochrome
  fails_iff := by
    intro hindexed
    rcases h.toPixelBuffer_cases with ⟨⟨picture, hpicture⟩, hnone⟩ | ⟨-, index, hsome, herror⟩
    · constructor
      · rintro ⟨e, he⟩
        exact absurd (he.symm.trans hpicture) (by simp)
      · rintro ⟨v, hv, hmissing⟩
        exact absurd (decide_eq_true hmissing) (List.find?_eq_none.1 (hnone hindexed) v hv)
    · have hlacks := List.find?_some hsome
      exact ⟨fun _ => ⟨index, List.mem_of_find?_eq_some hsome, of_decide_eq_true hlacks⟩,
        fun _ => ⟨_, herror⟩⟩
  error := by
    intro e he
    rcases h.toPixelBuffer_cases with ⟨⟨picture, hpicture⟩, -⟩ | ⟨-, index, hsome, herror⟩
    · exact absurd (he.symm.trans hpicture) (by simp)
    · exact ⟨index, hsome, Except.error.inj (he.symm.trans herror)⟩
  padding := fun rows hlength hbits => h.toPixelBuffer_congr hlength hbits

end Image

/-- **The reader on arbitrary bytes.**  None of its cuts is out of range, and an image that it gives
is sound: every row and every value is there, and the picture can fail only for a value that has no
palette entry. -/
theorem read_sound (bytes : List UInt8) :
    Image.readSliced? bytes = some (Image.read bytes) ∧
      ∀ image, Image.read bytes = .ok image → ∃ values, image.Sound values :=
  ⟨Image.readSliced?_eq bytes, fun image h => ⟨image.values, (Image.complete_of_read h).sound⟩⟩

/-- Five values of two bits in a row of two bytes, and then padding that is not zero.  The third
value has no palette entry. -/
def shortPaletteBlob : List UInt8 :=
  [1, 0, 1, 0, 5, 0, 0, 0, 1, 0, 0, 0, 2, 0, 0, 0, 1, 0, 0, 0, 0x04, 0x3f, 255, 0, 0, 255]

/-- What `shortPaletteBlob` holds. -/
def shortPaletteImage : Image where
  header := ⟨.indexed2, 0, 5, 1, 2, 1⟩
  rows := [0x04, 0x3f]
  palette := [⟨255, 0, 0, 255⟩]

theorem read_sound_shortPalette :
    Image.read shortPaletteBlob = .ok shortPaletteImage ∧
      shortPaletteImage.toPixelBuffer = .error (.indexOutOfRange 1 1) ∧
      ∃ values, shortPaletteImage.Sound values := by
  have hread : Image.read shortPaletteBlob = .ok shortPaletteImage := rfl
  exact ⟨hread, rfl, (read_sound shortPaletteBlob).2 _ hread⟩

end WatchBitmap
