import Mathlib.Data.List.Basic
import Mathlib.Tactic.Common
import WatchBitmap.Proofs.Acceptance

/-!
# Blobs that are too short or too long

No blob is the front of another.  The reader takes the header and the rows from the front and looks
at nothing behind them, so bytes that are added or missing change nothing before them; what they do
change is the size of the table, or the row in which the bytes end.

* `StoredRows.readRows_take` — **rows that are cut short.**
* `Divides.read_append`, `Divides.read_take_rows`, `Divides.read_take_table` — what is reported
  where.
* `Delimited`, `delimited_of_read` — **what becomes of a blob** with bytes behind it, or cut at any
  place.
-/

namespace WatchBitmap

open PackBits (Token)

/-- No declared size comes close to the largest count. -/
lemma Header.headerSize_add_dataLength_le (h : Header) :
    headerSize + h.dataLength ≤ countLimit := by
  have hstride : h.rowStride.toNat ≤ 2 ^ 32 - 1 := Nat.le_sub_one_of_lt h.rowStride.toNat_lt
  have hheight : h.height.toNat ≤ 2 ^ 32 - 1 := Nat.le_sub_one_of_lt h.height.toNat_lt
  calc headerSize + h.dataLength ≤ headerSize + (2 ^ 32 - 1) * (2 ^ 32 - 1) :=
        Nat.add_le_add_left (Nat.mul_le_mul hstride hheight) _
    _ ≤ countLimit := by decide

/-- What is said of rows that are not all there: their size, if it is declared, or that a row is
not complete. -/
def Header.cutRowsError (h : Header) (blobSize : ℕ) : ReadError :=
  if h.isCompressed then .row .truncated
  else .truncated (headerSize + h.rowStride.toNat * h.height.toNat) blobSize

variable {header : Header} {streams : List (List Token)} {data table rows bytes : List UInt8}

/-- **Rows that are cut short** are found to be cut short, wherever the cut is. -/
lemma StoredRows.readRows_take (h : StoredRows header streams data rows) (blobSize : ℕ) {k : ℕ}
    (hk : k < data.length) :
    Image.readRows header blobSize (data.take k) = .error (header.cutRowsError blobSize) := by
  cases h with
  | plain hplain hlength =>
      have hshort : ¬ header.dataLength ≤ (data.take k).length := by
        rw [List.length_take, Header.dataLength, ← hlength]
        omega
      rw [Image.readRows, Header.cutRowsError, hplain, if_neg Bool.false_ne_true,
        if_neg Bool.false_ne_true, if_neg hshort,
        Nat.min_eq_left header.headerSize_add_dataLength_le]
      rfl
  | coded hcoded hcount hstreams =>
      have herror := PackBits.error?_expandRows_take hstreams hk
      rw [hcount] at herror
      rw [Image.readRows, Header.cutRowsError, hcoded, if_pos rfl, if_pos rfl]
      simp only [herror]

namespace Divides

/-- A cut behind the header leaves a part of the body. -/
lemma drop_take (h : Divides header (bytes.drop headerSize) streams data table rows) (cut : ℕ) :
    (bytes.take cut).drop headerSize = (data ++ table).take (cut - headerSize) := by
  rw [List.drop_take, h.body]

/-- More bytes make the table too long. -/
lemma read_append (h : Divides header (bytes.drop headerSize) streams data table rows)
    (hheader : Header.read bytes = .ok header) {suffix : List UInt8} (hsuffix : suffix ≠ []) :
    Image.read (bytes ++ suffix)
      = .error (.paletteMismatch (4 * header.paletteSize.toNat)
          (4 * header.paletteSize.toNat + suffix.length)) := by
  have hsize := Header.headerSize_le_of_read hheader
  have hbody : (bytes ++ suffix).drop headerSize = data ++ (table ++ suffix) := by
    rw [List.drop_append_of_le_length hsize, h.body, List.append_assoc]
  have hlength : (table ++ suffix).length = 4 * header.paletteSize.toNat + suffix.length := by
    rw [List.length_append, h.table]
  have hpos := List.length_pos_iff.2 hsuffix
  rw [h.stored.read_eq ((Header.read_append hsize suffix).trans hheader) hbody, if_neg (by omega),
    hlength]

/-- A cut inside the rows. -/
lemma read_take_rows (h : Divides header (bytes.drop headerSize) streams data table rows)
    (hheader : Header.read bytes = .ok header) {cut : ℕ} (hbehind : headerSize ≤ cut)
    (hcut : cut < headerSize + data.length) :
    Image.read (bytes.take cut) = .error (header.cutRowsError cut) := by
  have hsize := h.length_eq hheader
  have hlength : (bytes.take cut).length = cut := List.length_take_of_le (by omega)
  have hbody : (bytes.take cut).drop headerSize = data.take (cut - headerSize) := by
    rw [h.drop_take, List.take_append_of_le_length (by omega)]
  refine Image.read_eq_error_of_readRows
    ((Header.read_take hbehind (Header.headerSize_le_of_read hheader)).trans hheader) ?_
  rw [hbody, hlength]
  exact h.stored.readRows_take cut (by omega)

/-- A cut inside the table, or in front of a table that is not empty. -/
lemma read_take_table (h : Divides header (bytes.drop headerSize) streams data table rows)
    (hheader : Header.read bytes = .ok header) {cut : ℕ}
    (hbehind : headerSize + data.length ≤ cut) (hcut : cut < bytes.length) :
    Image.read (bytes.take cut)
      = .error (.paletteMismatch (4 * header.paletteSize.toNat)
          (cut - (headerSize + data.length))) := by
  have hsize := h.length_eq hheader
  obtain ⟨k, rfl⟩ := Nat.exists_eq_add_of_le hbehind
  have hbody : (bytes.take (headerSize + data.length + k)).drop headerSize
      = data ++ table.take k := by
    rw [h.drop_take, Nat.add_assoc, Nat.add_sub_cancel_left, List.take_length_add_append]
  have hlength : (table.take k).length = k := List.length_take_of_le (by rw [h.table]; omega)
  rw [h.stored.read_eq
    ((Header.read_take (by omega) (Header.headerSize_le_of_read hheader)).trans hheader) hbody,
    if_neg (by omega), hlength, Nat.add_sub_cancel_left]

end Divides

/-- **A blob has a beginning and an end.**  Its table begins at `tableStart` and takes the last
`4 * paletteSize` bytes; the rows are what lies between header and table.  More bytes are too many,
and a cut is reported for the region that it is in.  In compressed rows it never makes a token reach
past its row. -/
structure Delimited (bytes : List UInt8) (header : Header) (tableStart : ℕ) : Prop where
  headerSize_le : headerSize ≤ tableStart
  length : bytes.length = tableStart + 4 * header.paletteSize.toNat
  longer : ∀ suffix, suffix ≠ [] →
    Image.read (bytes ++ suffix)
      = .error (.paletteMismatch (4 * header.paletteSize.toNat)
          (4 * header.paletteSize.toNat + suffix.length))
  cutHeader : ∀ cut < headerSize,
    Image.read (bytes.take cut) = .error (.truncated headerSize cut)
  cutPlainRows : header.isCompressed = false → ∀ cut, headerSize ≤ cut → cut < tableStart →
    Image.read (bytes.take cut) = .error (.truncated tableStart cut)
  cutCodedRows : header.isCompressed = true → ∀ cut, headerSize ≤ cut → cut < tableStart →
    Image.read (bytes.take cut) = .error (.row .truncated)
  cutTable : ∀ cut, tableStart ≤ cut → cut < bytes.length →
    Image.read (bytes.take cut)
      = .error (.paletteMismatch (4 * header.paletteSize.toNat) (cut - tableStart))

/-- **No blob is the front of another.**  What is read as an image is no longer read with anything
behind it, nor with any of its bytes missing at the end. -/
theorem delimited_of_read {image : Image} (h : Image.read bytes = .ok image) :
    ∃ tableStart, Delimited bytes image.header tableStart := by
  obtain ⟨hheader, streams, data, table, hdivides, -⟩ := exists_divides_of_read h
  have hsize := hdivides.length_eq hheader
  refine ⟨headerSize + data.length, {
    headerSize_le := Nat.le_add_right _ _
    length := hsize
    longer := fun suffix hsuffix => hdivides.read_append hheader hsuffix
    cutHeader := ?cutHeader
    cutPlainRows := ?cutPlainRows
    cutCodedRows := ?cutCodedRows
    cutTable := ?cutTable }⟩
  case cutHeader =>
    intro cut hcut
    have hlength : (bytes.take cut).length = cut := List.length_take_of_le (by omega)
    have hshort := Header.read_of_length_lt (hlength.trans_lt hcut)
    rw [hlength] at hshort
    exact Image.read_eq_error_of_header hshort
  case cutPlainRows =>
    intro hplain cut hbehind hcut
    rw [hdivides.read_take_rows hheader hbehind hcut, Header.cutRowsError, hplain,
      if_neg Bool.false_ne_true, hdivides.stored.eq_rows_of_plain hplain,
      hdivides.stored.length_rows]
  case cutCodedRows =>
    intro hcoded cut hbehind hcut
    rw [hdivides.read_take_rows hheader hbehind hcut, Header.cutRowsError, if_pos hcoded]
  case cutTable =>
    intro cut hbehind hcut
    exact hdivides.read_take_table hheader hbehind hcut

/-- Two compressed rows of one byte.  The second begins with a control byte that stands for
nothing. -/
def noOpBlob : List UInt8 :=
  [1, 0, 1, 2, 3, 0, 0, 0, 2, 0, 0, 0, 1, 0, 0, 0, 2, 0, 0, 0, 0, 0x10, 128, 0, 0x44,
    255, 0, 0, 255, 0, 255, 0, 128]

/-- What `noOpBlob` holds. -/
def noOpImage : Image where
  header := ⟨.indexed2, 2, 3, 2, 1, 2⟩
  rows := [0x10, 0x44]
  palette := [⟨255, 0, 0, 255⟩, ⟨0, 255, 0, 128⟩]

theorem delimited_noOpBlob :
    Image.read noOpBlob = .ok noOpImage ∧
      ∃ tableStart, Delimited noOpBlob noOpImage.header tableStart := by
  have hread : Image.read noOpBlob = .ok noOpImage := by decide +kernel
  exact ⟨hread, delimited_of_read hread⟩

end WatchBitmap
