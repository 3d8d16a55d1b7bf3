import Mathlib.Data.List.Basic
import Mathlib.Tactic.Common
import WatchBitmap.Image
import WatchBitmap.Palette
import WatchBitmap.Proofs.Blocks
import WatchBitmap.Proofs.Header
import WatchBitmap.Proofs.TokenStream

/-!
# Which bytes are a watch bitmap

The reader accepts a header and, behind it, a body of the format that the header declares: the
stored rows, and then the palette table.  Nothing marks where the rows end.  Without compression
their number of bytes is declared; with it the tokens say where each row is complete.

* `StoredRows` — how rows are stored, and `Divides`, how a body is made up of them and a table.
* `StoredRows.readRows_append`, `exists_storedRows_of_readRows` — the reader of the rows finds
  exactly those.
* `Divides.unique` — a body is divided in one way only.
* `read_eq_ok_iff` — **what is accepted, and what is read from it.**
-/

namespace WatchBitmap

open PackBits (Token IsRow)

/-! ## Palette tables -/

lemma Palette.length_tableBytes (colors : List Color) :
    (tableBytes colors).length = colors.length * 4 :=
  length_flatMap_blocks fun c _ => Color.length_toBytes c

namespace Color

/-- **A table is written by the colors read from it**, if it ends with one. -/
lemma tableBytes_ofBytes {n : ℕ} {table : List UInt8} (h : table.length = n * 4) :
    Palette.tableBytes (ofBytes table) = table := by
  induction n generalizing table with
  | zero => simp [List.length_eq_zero_iff.1 (h.trans (Nat.zero_mul 4)), ofBytes, Palette.tableBytes]
  | succ n ih =>
      rcases table with _ | ⟨r, _ | ⟨g, _ | ⟨b, _ | ⟨a, rest⟩⟩⟩⟩
      on_goal 5 =>
        have hrest : Palette.tableBytes (ofBytes rest) = rest :=
          ih (by simp only [List.length_cons] at h; omega)
        rw [Palette.tableBytes] at hrest
        rw [ofBytes, Palette.tableBytes, List.flatMap_cons, hrest]
        rfl
      all_goals simp only [List.length_cons, List.length_nil] at h; omega

lemma length_ofBytes {n : ℕ} {table : List UInt8} (h : table.length = n * 4) :
    (ofBytes table).length = n := by
  have hlength := Palette.length_tableBytes (ofBytes table)
  rw [tableBytes_ofBytes h, h] at hlength
  omega

end Color

/-! ## The format of a body -/

/-- **How rows are stored**: as they are, in as many bytes as are declared, or as a stream of tokens
for each, as many streams as there are rows.  `data` is what is stored, and `streams` are its
tokens, none if there are none to find. -/
inductive StoredRows (header : Header) :
    (streams : List (List Token)) → (data rows : List UInt8) → Prop
  | plain {data : List UInt8} (hplain : header.isCompressed = false)
      (hlength : data.length = header.rowStride.toNat * header.height.toNat) :
      StoredRows header [] data data
  | coded {streams : List (List Token)} (hcoded : header.isCompressed = true)
      (hcount : streams.length = header.height.toNat)
      (hstreams : ∀ ts ∈ streams, IsRow header.rowStride.toNat ts) :
      StoredRows header streams (streams.flatten.flatMap Token.toBytes)
        (streams.flatten.flatMap Token.expand)

/-- **The format of a body**: stored rows, and a table of four bytes for each palette entry that is
declared. -/
structure Divides (header : Header) (body : List UInt8) (streams : List (List Token))
    (data table rows : List UInt8) : Prop where
  body : body = data ++ table
  stored : StoredRows header streams data rows
  table : table.length = 4 * header.paletteSize.toNat

namespace StoredRows

variable {header : Header} {streams : List (List Token)} {data rows : List UInt8}

/-- However rows are stored, what is stored stands for as many bytes as are declared. -/
lemma length_rows (h : StoredRows header streams data rows) :
    rows.length = header.rowStride.toNat * header.height.toNat := by
  cases h with
  | plain _ hlength => exact hlength
  | coded _ hcount hstreams =>
      have hblocks := length_flatMap_blocks fun ts hts => (hstreams ts hts).length
      rw [← List.flatMap_id, List.flatMap_assoc]
      simp only [id_eq]
      rw [hblocks, hcount, Nat.mul_comm]

/-- Without compression what is stored are the rows. -/
lemma eq_rows_of_plain (h : StoredRows header streams data rows)
    (hplain : header.isCompressed = false) : data = rows := by
  cases h with
  | plain => rfl
  | coded hcoded => exact absurd (hplain.symm.trans hcoded) Bool.false_ne_true

/-- **Stored rows are found**, whatever follows them. -/
lemma readRows_append (h : StoredRows header streams data rows) (blobSize : ℕ)
    (rest : List UInt8) :
    Image.readRows header blobSize (data ++ rest) = .ok (rows, data.length) := by
  cases h with
  | plain hplain hlength =>
      rw [Image.readRows, hplain, if_neg Bool.false_ne_true, Header.dataLength, ← hlength,
        List.length_append, if_pos (Nat.le_add_right _ _), List.take_left]
  | coded hcoded hcount hstreams =>
      have hexpand := PackBits.expandRows_append hstreams rest
      rw [hcount] at hexpand
      rw [Image.readRows, hcoded, if_pos rfl, hexpand]

/-- The rows at the front of a body can be found from there, whatever follows them. -/
lemma unique {streams' : List (List Token)} {data' rows' : List UInt8}
    (h : StoredRows header streams data rows) (h' : StoredRows header streams' data' rows')
    {rest rest' : List UInt8} (hbody : data ++ rest = data' ++ rest') :
    streams = streams' ∧ data = data' ∧ rows = rows' ∧ rest = rest' := by
  cases h with
  | plain hplain hlength =>
      cases h' with
      | plain _ hlength' =>
          obtain ⟨hdata, hrest⟩ := List.append_inj hbody (hlength.trans hlength'.symm)
          exact ⟨rfl, hdata, hdata, hrest⟩
      | coded hcoded => exact absurd (hplain.symm.trans hcoded) Bool.false_ne_true
  | coded hcoded hcount hstreams =>
      cases h' with
      | plain hplain => exact absurd (hplain.symm.trans hcoded) Bool.false_ne_true
      | coded _ hcount' hstreams' =>
          obtain ⟨rfl, hrest⟩ := PackBits.rows_unique hstreams hstreams'
            (hcount.trans hcount'.symm) hbody
          exact ⟨rfl, rfl, rfl, hrest⟩

end StoredRows

/-- **What is found are stored rows.** -/
lemma exists_storedRows_of_readRows {header : Header} {blobSize used : ℕ} {body rows : List UInt8}
    (h : Image.readRows header blobSize body = .ok (rows, used)) :
    ∃ streams data rest, StoredRows header streams data rows ∧ body = data ++ rest ∧
      data.length = used := by
  rw [Image.readRows] at h
  split_ifs at h with hcoded hlength
  · cases herror : (PackBits.expandRows header.rowStride.toNat header.height.toNat body).error?
    · obtain ⟨streams, rest, hcount, hstreams, rfl⟩ := PackBits.exists_rows_of_expandRows herror
      have hexpand := PackBits.expandRows_append hstreams rest
      rw [hcount] at hexpand
      rw [hexpand] at h
      obtain ⟨rfl, rfl⟩ := Prod.mk.inj (Except.ok.inj h)
      exact ⟨streams, _, rest, .coded hcoded hcount hstreams, rfl, rfl⟩
    · simp only [herror] at h
      exact absurd h (by simp)
  · obtain ⟨rfl, rfl⟩ := Prod.mk.inj (Except.ok.inj h)
    have htake := List.length_take_of_le hlength
    exact ⟨[], _, body.drop header.dataLength,
      .plain (Bool.not_eq_true _ ▸ hcoded) htake, (List.take_append_drop _ _).symm, htake⟩

/-- **A body is divided in one way.** -/
lemma Divides.unique {header : Header} {body : List UInt8}
    {streams streams' : List (List Token)} {data data' table table' rows rows' : List UInt8}
    (h : Divides header body streams data table rows)
    (h' : Divides header body streams' data' table' rows') :
    streams = streams' ∧ data = data' ∧ table = table' ∧ rows = rows' := by
  obtain ⟨hstreams, hdata, hrows, htable⟩ := h.stored.unique h'.stored (h.body.symm.trans h'.body)
  exact ⟨hstreams, hdata, htable, hrows⟩

/-- A blob consists of its header, its rows and its table. -/
lemma Divides.length_eq {bytes : List UInt8} {header : Header} {streams : List (List Token)}
    {data table rows : List UInt8}
    (h : Divides header (bytes.drop headerSize) streams data table rows)
    (hheader : Header.read bytes = .ok header) :
    bytes.length = headerSize + data.length + 4 * header.paletteSize.toNat := by
  have hbody := congrArg List.length h.body
  rw [List.length_drop, List.length_append, h.table] at hbody
  have hsize := Header.headerSize_le_of_read hheader
  omega

/-! ## The reader -/

namespace Image

lemma read_eq_error_of_header {bytes : List UInt8} {e : ReadError}
    (hheader : Header.read bytes = .error e) : Image.read bytes = .error e := by
  rw [Image.read, hheader]
  rfl

lemma read_eq_error_of_readRows {bytes : List UInt8} {header : Header} {e : ReadError}
    (hheader : Header.read bytes = .ok header)
    (hrows : readRows header bytes.length (bytes.drop headerSize) = .error e) :
    Image.read bytes = .error e := by
  rw [Image.read, hheader]
  simp only [bind, Except.bind, hrows]

/-- **The reader behind a header**, once the rows are found: it is the size of the table that
decides. -/
lemma read_eq_of_readRows {bytes rows : List UInt8} {header : Header} {used : ℕ}
    (hheader : Header.read bytes = .ok header)
    (hrows : readRows header bytes.length (bytes.drop headerSize) = .ok (rows, used)) :
    Image.read bytes
      = if ((bytes.drop headerSize).drop used).length = header.paletteSize.toNat * 4 then
          .ok ⟨header, rows, Color.ofBytes ((bytes.drop headerSize).drop used)⟩
        else
          .error (.paletteMismatch (header.paletteSize.toNat * 4)
            ((bytes.drop headerSize).drop used).length) := by
  rw [Image.read, hheader]
  simp only [bind, Except.bind, hrows, ne_eq, ite_not]
  rfl

end Image

/-- **The reader behind stored rows**: it is the size of the rest that decides. -/
lemma StoredRows.read_eq {bytes : List UInt8} {header : Header} {streams : List (List Token)}
    {data table rows : List UInt8} (h : StoredRows header streams data rows)
    (hheader : Header.read bytes = .ok header) (hbody : bytes.drop headerSize = data ++ table) :
    Image.read bytes
      = if table.length = 4 * header.paletteSize.toNat then
          .ok ⟨header, rows, Color.ofBytes table⟩
        else
          .error (.paletteMismatch (4 * header.paletteSize.toNat) table.length) := by
  have hrows : Image.readRows header bytes.length (bytes.drop headerSize)
      = .ok (rows, data.length) := by
    rw [hbody]
    exact h.readRows_append _ _
  rw [Image.read_eq_of_readRows hheader hrows, hbody, List.drop_left, Nat.mul_comm _ 4]

/-- A body of the declared format is read. -/
lemma Divides.read_eq_ok {bytes : List UInt8} {header : Header} {streams : List (List Token)}
    {data table rows : List UInt8} (hheader : Header.read bytes = .ok header)
    (h : Divides header (bytes.drop headerSize) streams data table rows) :
    Image.read bytes = .ok ⟨header, rows, Color.ofBytes table⟩ := by
  rw [h.stored.read_eq hheader h.body, if_pos h.table]

/-- What is read has a header and a body of the declared format. -/
lemma exists_divides_of_read {bytes : List UInt8} {image : Image}
    (h : Image.read bytes = .ok image) :
    Header.read bytes = .ok image.header ∧ ∃ streams data table,
      Divides image.header (bytes.drop headerSize) streams data table image.rows ∧
      image.palette = Color.ofBytes table := by
  cases hheader : Header.read bytes with
  | error e =>
      rw [Image.read_eq_error_of_header hheader] at h
      exact absurd h (by simp)
  | ok header =>
      cases hrows : Image.readRows header bytes.length (bytes.drop headerSize) with
      | error e =>
          rw [Image.read_eq_error_of_readRows hheader hrows] at h
          exact absurd h (by simp)
      | ok found =>
          obtain ⟨rows, used⟩ := found
          obtain ⟨streams, data, table, hstored, hbody, -⟩ := exists_storedRows_of_readRows hrows
          rw [hstored.read_eq hheader hbody] at h
          split_ifs at h with htable
          obtain rfl := Except.ok.inj h
          exact ⟨rfl, streams, data, table, ⟨hbody, hstored, htable⟩, rfl⟩

/-- **What is accepted, and what is read from it.**  Bytes are read as an image exactly if they
begin with its header and go on with a body of the format that the header declares; the rows of the
image are those that are stored in the body, and its palette is written by the table.  There is only
one way to divide a body, down to the single token. -/
theorem read_eq_ok_iff (bytes : List UInt8) (image : Image) :
    (Image.read bytes = .ok image ↔
      Header.read bytes = .ok image.header ∧ ∃ streams data table,
        Divides image.header (bytes.drop headerSize) streams data table image.rows ∧
        table = Palette.tableBytes image.palette) ∧
    ∀ (header : Header) (streams streams' : List (List Token))
      (data data' table table' rows rows' : List UInt8),
      Divides header (bytes.drop headerSize) streams data table rows →
      Divides header (bytes.drop headerSize) streams' data' table' rows' →
      streams = streams' ∧ data = data' ∧ table = table' ∧ rows = rows' := by
  refine ⟨⟨?_, ?_⟩, fun _ _ _ _ _ _ _ _ _ h h' => h.unique h'⟩
  · intro h
    obtain ⟨hheader, streams, data, table, hdivides, hpalette⟩ := exists_divides_of_read h
    refine ⟨hheader, streams, data, table, hdivides, ?_⟩
    rw [hpalette, Color.tableBytes_ofBytes (hdivides.table.trans (Nat.mul_comm _ _))]
  · rintro ⟨hheader, streams, data, table, hdivides, rfl⟩
    rw [hdivides.read_eq_ok hheader, Palette.tableBytes, Color.ofBytes_flatMap_toBytes]

end WatchBitmap
