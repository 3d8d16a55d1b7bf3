import Mathlib.Logic.Relation
import Mathlib.Tactic.Common
import WatchBitmap.Proofs.Acceptance
import WatchBitmap.Proofs.Reading

/-!
# What is expanded is bounded by what was read

A header may declare billions of rows of half a gigabyte each.  The reader of compressed rows does
not believe it.  It takes one token after the other off the front of the body, and a token of two
bytes stands for at most 128.  So whatever the header says, and whether the rows turn out to be in
order or not, there are never more than 64 bytes for each byte that was taken, and no row is
complete before two bytes were spent on it.

The argument is about the reader's single steps.  A `Moment` is what the reader has in hand between
two of them; `Moment.Step` is one token, or one row that turns out to be complete.

* `Moment.Bounded`, `Moment.Step.bounded` — **the bound, and that a step keeps it.**
* `bounded_of_reaches` — a run of any length keeps it.
* `exists_reaches_expandRows` — such a run is what the reader does: it stops where `expandRows`
  does, with the same bytes in hand.
* `expandsWithin_of_read` — **the reader of compressed blobs**, accepted or not, and
  `size_le_of_read` for those that are.
-/

namespace WatchBitmap

namespace PackBits

/-! ## The reader's steps -/

/-- **A moment in expanding rows**: how many rows are not complete, the one under way included, what
that one still needs, and what was not taken yet; then what the tokens stand for that were taken,
how many bytes they are written with, and how many rows are complete. -/
structure Moment where
  rowsLeft : ℕ
  need : ℕ
  input : List UInt8
  bytes : List UInt8
  used : ℕ
  rows : ℕ

namespace Moment

/-- Before the first of `height` rows, with nothing taken yet. -/
def start (stride height : ℕ) (body : List UInt8) : Moment :=
  ⟨height, stride, body, [], 0, 0⟩

/-- **A step of the reader**: a token that the row has room for, or the beginning of
the next row. -/
inductive Step (stride : ℕ) : Moment → Moment → Prop
  | token {left need used rows : ℕ} {input rest bytes : List UInt8} {t : Token}
      (hneed : need ≠ 0) (hread : Token.read? input = some (t, rest)) (hfits : t.size ≤ need) :
      Step stride ⟨left + 1, need, input, bytes, used, rows⟩
        ⟨left + 1, need - t.size, rest, bytes ++ t.expand, used + t.toBytes.length, rows⟩
  | row {left used rows : ℕ} {input bytes : List UInt8} :
      Step stride ⟨left + 1, 0, input, bytes, used, rows⟩
        ⟨left, stride, input, bytes, used, rows + 1⟩

/-- **Where the reader stops**, and what it complains of there. -/
inductive Stops (stride : ℕ) : Moment → Option RowError → Prop
  | complete {m : Moment} (hleft : m.rowsLeft = 0) : Stops stride m none
  | truncated {m : Moment} (hleft : m.rowsLeft ≠ 0) (hneed : m.need ≠ 0)
      (hread : Token.read? m.input = none) : Stops stride m (some .truncated)
  | overrun {m : Moment} {t : Token} {rest : List UInt8} (hleft : m.rowsLeft ≠ 0)
      (hneed : m.need ≠ 0) (hread : Token.read? m.input = some (t, rest))
      (hpast : m.need < t.size) : Stops stride m (some (.overrun stride))

/-- Any number of steps, none included. -/
def Reaches (stride : ℕ) : Moment → Moment → Prop :=
  Relation.ReflTransGen (Step stride)

end Moment

/-! ## The bound -/

/-- **A token's amplification.**  The longest run takes two bytes for 128. -/
lemma Token.size_le {t : Token} (ht : t.WellFormed) : t.size ≤ 64 * t.toBytes.length := by
  cases t with
  | literal bytes => simp only [size, toBytes, List.length_cons]; omega
  | run count value => simp only [size, toBytes, List.length_cons, List.length_nil]; exact ht.2
  | noOp => exact Nat.zero_le _

/-- A token that stands for something has a byte besides its control byte. -/
lemma Token.two_le_length_toBytes {t : Token} (ht : t.size ≠ 0) : 2 ≤ t.toBytes.length := by
  cases t with
  | literal bytes => simp only [size, toBytes, List.length_cons] at ht ⊢; omega
  | run count value => simp [toBytes]
  | noOp => exact absurd rfl ht

namespace Moment

/-- **The bound**, with what carries it from step to step: what was taken is the front of the body,
a row that has begun has taken two bytes, and so has each row that is complete. -/
structure Bounded (stride height : ℕ) (body : List UInt8) (m : Moment) : Prop where
  input : m.input = body.drop m.used
  used_le : m.used ≤ body.length
  rows_add : m.rows + m.rowsLeft = height
  bytes_le : m.bytes.length ≤ 64 * m.used
  rows_le : 2 * m.rows ≤ m.used
  underway : m.need < stride → 2 * m.rows + 2 ≤ m.used

variable {stride height : ℕ} {body : List UInt8} {m m' : Moment}

lemma bounded_start (stride height : ℕ) (body : List UInt8) :
    (start stride height body).Bounded stride height body where
  input := rfl
  used_le := Nat.zero_le _
  rows_add := Nat.zero_add _
  bytes_le := Nat.zero_le _
  rows_le := Nat.zero_le _
  underway := fun h => absurd h (Nat.lt_irrefl stride)

/-- **A step keeps the bound.**  Rows have at least one byte, so one that is complete has begun. -/
theorem Step.bounded (hstride : 0 < stride) (hstep : Step stride m m')
    (h : m.Bounded stride height body) : m'.Bounded stride height body := by
  obtain ⟨hinput, hused, hadd, hbytes, hrows, hunderway⟩ := h
  cases hstep with
  | @token left need used rows input rest bytes t hneed hread hfits =>
      simp only at hinput hused hadd hbytes hrows hunderway
      obtain ⟨ht, hfront⟩ := Token.eq_of_read? hread
      have hsize := Token.size_le ht
      have hdrop : body.drop used = t.toBytes ++ rest := hinput.symm.trans hfront
      have hlength := congrArg List.length hdrop
      rw [List.length_drop, List.length_append] at hlength
      refine ⟨?_, ?_, hadd, ?_, ?_, ?_⟩
      · show rest = body.drop (used + t.toBytes.length)
        rw [← List.drop_drop, hdrop, List.drop_left]
      · show used + t.toBytes.length ≤ body.length
        have hpos : 0 < t.toBytes.length := by cases t <;> simp [Token.toBytes]
        omega
      · show (bytes ++ t.expand).length ≤ 64 * (used + t.toBytes.length)
        rw [List.length_append, Token.length_expand]
        omega
      · show 2 * rows ≤ used + t.toBytes.length
        omega
      · show need - t.size < stride → 2 * rows + 2 ≤ used + t.toBytes.length
        intro hbegun
        -- a control byte that stands for nothing leaves the row as it was
        by_cases hzero : t.size = 0
        · have := hunderway (by omega)
          omega
        · have := Token.two_le_length_toBytes hzero
          omega
  | @row left used rows input bytes =>
      simp only at hinput hused hadd hbytes hrows hunderway
      have hbegun := hunderway hstride
      refine ⟨hinput, hused, ?_, hbytes, ?_, fun hlt => absurd hlt (Nat.lt_irrefl stride)⟩
      · show rows + 1 + left = height
        omega
      · show 2 * (rows + 1) ≤ used
        omega

/-- **A run keeps the bound**, by induction on its steps. -/
theorem bounded_of_reaches (hstride : 0 < stride)
    (hrun : Reaches stride (start stride height body) m) : m.Bounded stride height body := by
  induction hrun with
  | refl => exact bounded_start stride height body
  | tail _ hstep ih => exact hstep.bounded hstride ih

end Moment

/-! ## The steps are the reader's -/

namespace Moment

/-- The moment behind a row's expansion, complete or not, if the row was begun at the moment `m`. -/
def after (m : Moment) (e : Expansion) : Moment where
  rowsLeft := m.rowsLeft
  need := m.need - e.bytes.length
  input := m.input.drop e.used
  bytes := m.bytes ++ e.bytes
  used := m.used + e.used
  rows := m.rows

lemma after_nothing (m : Moment) (error? : Option RowError) : m.after ⟨[], 0, error?⟩ = m := by
  simp [after]

end Moment

/-- **The steps of one row**, by induction on the reader's own recursion: each call takes one token,
or none and then it is the last. -/
lemma reaches_expandFrom (stride need : ℕ) (input : List UInt8) (left used rows : ℕ)
    (bytes : List UInt8) :
    Moment.Reaches stride ⟨left + 1, need, input, bytes, used, rows⟩
      (Moment.after ⟨left + 1, need, input, bytes, used, rows⟩ (expandFrom stride need input)) := by
  induction need, input using expandFrom.induct generalizing bytes used with
  | case1 input =>
      rw [expandFrom, if_pos rfl, Moment.after_nothing]
      exact .refl
  | case2 need input hneed hread =>
      rw [expandFrom_of_read?_eq_none hneed hread, Moment.after_nothing]
      exact .refl
  | case3 need input hneed t rest hread hpast =>
      rw [expandFrom_of_read? hneed hread, if_pos hpast, Moment.after_nothing]
      exact .refl
  | case4 need input hneed t rest hread hfits ih =>
      have hrun := ih (used + t.toBytes.length) (bytes ++ t.expand)
      rw [expandFrom_of_read? hneed hread, if_neg hfits]
      obtain ⟨-, rfl⟩ := Token.eq_of_read? hread
      have hafter : Moment.after ⟨left + 1, need, t.toBytes ++ rest, bytes, used, rows⟩
            ((expandFrom stride (need - t.size) rest).after t)
          = Moment.after ⟨left + 1, need - t.size, rest, bytes ++ t.expand,
            used + t.toBytes.length, rows⟩ (expandFrom stride (need - t.size) rest) := by
        simp only [Moment.after, Expansion.after, List.length_append, Token.length_expand,
          List.append_assoc, Nat.sub_sub, Nat.add_assoc, List.drop_length_add_append]
      rw [hafter]
      exact .head (.token hneed hread (Nat.le_of_not_lt hfits)) hrun

lemma length_bytes_expandRow {stride : ℕ} {input : List UInt8}
    (h : (expandRow stride input).error? = none) :
    (expandRow stride input).bytes.length = stride := by
  obtain ⟨ts, rest, hrow, rfl⟩ := exists_row_of_expandRow h
  rw [hrow.expandRow_append]
  exact hrow.length

/-- **A row that is not in order stops the reader**, at the token that is not there or that does not
fit. -/
lemma stops_after_expandRow {stride : ℕ} {m : Moment} {error : RowError}
    (hleft : m.rowsLeft ≠ 0) (hneed : m.need = stride)
    (h : (expandRow stride m.input).error? = some error) :
    (m.after (expandRow stride m.input)).Stops stride (some error) := by
  obtain ⟨left, need, input, bytes, used, rows⟩ := m
  simp only at hleft hneed h ⊢
  subst hneed
  have hreads := reads_expandFrom need need input
  rw [← expandRow] at hreads
  generalize expandRow need input = e at hreads h
  cases hreads with
  | complete hrow => exact absurd h (by simp)
  | @overrun ts t rest hwf hshort ht hpast =>
      obtain rfl := Option.some.inj h
      refine @Moment.Stops.overrun need _ t rest hleft ?_ ?_ ?_
      · simp only [Moment.after]
        omega
      · simp only [Moment.after, List.drop_left]
        exact Token.read?_toBytes_append ht rest
      · simp only [Moment.after]
        omega
  | @truncated ts tail hwf hshort htail =>
      obtain rfl := Option.some.inj h
      refine .truncated hleft ?_ ?_
      · simp only [Moment.after]
        omega
      · simp only [Moment.after, List.drop_left]
        exact htail

/-- **The steps are the reader's.**  They lead to a moment at which the reader stops, and there it
has in hand what `expandRows` gives.  The induction is on the rows: one that is complete is followed
by the steps of those behind it. -/
theorem exists_reaches_expandRows (stride height : ℕ) (input : List UInt8) (used rows : ℕ)
    (bytes : List UInt8) :
    ∃ m, Moment.Reaches stride ⟨height, stride, input, bytes, used, rows⟩ m ∧
      m.Stops stride (expandRows stride height input).error? ∧
      m.bytes = bytes ++ (expandRows stride height input).bytes ∧
      m.used = used + (expandRows stride height input).used ∧
      m.rows = rows + (expandRows stride height input).rows := by
  induction height generalizing input used rows bytes with
  | zero => exact ⟨_, .refl, .complete rfl, by simp [expandRows], rfl, rfl⟩
  | succ height ih =>
      have hrow := reaches_expandFrom stride stride input height used rows bytes
      rw [← expandRow] at hrow
      cases herror : (expandRow stride input).error? with
      | some error =>
          refine ⟨_, hrow, ?_, ?_, ?_, ?_⟩
          · simp only [expandRows, herror]
            exact stops_after_expandRow (Nat.succ_ne_zero height) rfl herror
          · simp only [expandRows, herror, Moment.after]
          · simp only [expandRows, herror, Moment.after]
          · simp only [expandRows, herror, Moment.after, Nat.add_zero]
      | none =>
          have hcomplete : Moment.after ⟨height + 1, stride, input, bytes, used, rows⟩
                (expandRow stride input)
              = ⟨height + 1, 0, input.drop (expandRow stride input).used,
                bytes ++ (expandRow stride input).bytes, used + (expandRow stride input).used,
                rows⟩ := by
            simp only [Moment.after, length_bytes_expandRow herror, Nat.sub_self]
          rw [hcomplete] at hrow
          obtain ⟨m, hrun, hstops, hbytes, hused, hrows⟩ := ih
            (input.drop (expandRow stride input).used) (used + (expandRow stride input).used)
            (rows + 1) (bytes ++ (expandRow stride input).bytes)
          refine ⟨m, (hrow.tail .row).trans hrun, ?_, ?_, ?_, ?_⟩
          · simpa only [expandRows, herror] using hstops
          · simp only [expandRows, herror, hbytes, List.append_assoc]
          · simp only [expandRows, herror, hused, Nat.add_assoc]
          · simp only [expandRows, herror, hrows]
            omega

end PackBits

open PackBits (Moment)

lemma Header.WellFormed.rowStride_pos {h : Header} (hwf : h.WellFormed) :
    0 < h.rowStride.toNat := by
  have hwidth : 0 < h.width.toNat :=
    Nat.pos_of_ne_zero fun hzero => hwf.width (UInt32.toNat_inj.1 hzero)
  have hbits := BitPacking.bits_pos h.format.bitsPerPixel_dvd
  have hpos := Nat.mul_pos hwidth hbits
  rw [hwf.rowStride_toNat, Format.rowBytes]
  omega

/-- The reader of a body's rows passes through a moment. -/
def Header.PassesThrough (header : Header) (body : List UInt8) (m : Moment) : Prop :=
  Moment.Reaches header.rowStride.toNat
    (.start header.rowStride.toNat header.height.toNat body) m

/-- **What a compressed blob can make the reader build.** -/
structure ExpandsWithin (bytes : List UInt8) (header : Header) : Prop where
  /-- At every moment what was expanded is bounded by what was taken off the front of the body, and
  so is the number of rows that are complete. -/
  moment : ∀ m, header.PassesThrough (bytes.drop headerSize) m →
    m.bytes.length ≤ 64 * m.used ∧ m.input = (bytes.drop headerSize).drop m.used ∧
    m.used ≤ (bytes.drop headerSize).length ∧ m.rows ≤ (bytes.drop headerSize).length / 2
  /-- One of these moments is where the reader stops, with its rows or with a complaint. -/
  stops : ∃ m error?, header.PassesThrough (bytes.drop headerSize) m ∧
    m.Stops header.rowStride.toNat error? ∧
    Image.readRows header bytes.length (bytes.drop headerSize)
      = match error? with
        | none => .ok (m.bytes, m.used)
        | some error => .error (.row error)
  /-- So a blob that is accepted has bytes for all rows that it declares. -/
  accepted : ∀ image, Image.read bytes = .ok image →
    header.rowStride.toNat * header.height.toNat
      ≤ 64 * (bytes.length - 20 - 4 * header.paletteSize.toNat) ∧
    2 * header.height.toNat ≤ bytes.length - 20 - 4 * header.paletteSize.toNat

variable {header : Header} {body : List UInt8} {m : Moment}

lemma Header.PassesThrough.bounded (hwf : header.WellFormed)
    (hpasses : header.PassesThrough body m) :
    m.Bounded header.rowStride.toNat header.height.toNat body :=
  Moment.bounded_of_reaches hwf.rowStride_pos hpasses

lemma exists_stops_readRows (hcoded : header.isCompressed = true) (blobSize : ℕ)
    (body : List UInt8) :
    ∃ m error?, header.PassesThrough body m ∧ m.Stops header.rowStride.toNat error? ∧
      Image.readRows header blobSize body
        = match error? with
          | none => .ok (m.bytes, m.used)
          | some error => .error (.row error) := by
  obtain ⟨m, hrun, hstops, hbytes, hused, -⟩ := PackBits.exists_reaches_expandRows
    header.rowStride.toNat header.height.toNat body 0 0 []
  refine ⟨m, _, hrun, hstops, ?_⟩
  rw [Image.readRows, hcoded, if_pos rfl, hbytes, hused, List.nil_append, Nat.zero_add]
  dsimp only
  cases (PackBits.expandRows header.rowStride.toNat header.height.toNat body).error? <;> rfl

/-- **The size of what is accepted.**  Its reader stops with all rows complete, and the bound holds
there as it does everywhere. -/
lemma size_le_of_read {bytes : List UInt8} {image : Image} (hread : Image.read bytes = .ok image)
    (hcoded : image.header.isCompressed = true) :
    image.header.rowStride.toNat * image.header.height.toNat
        ≤ 64 * (bytes.length - 20 - 4 * image.header.paletteSize.toNat) ∧
      2 * image.header.height.toNat
        ≤ bytes.length - 20 - 4 * image.header.paletteSize.toNat := by
  obtain ⟨hheader, streams, data, table, hdivides, -⟩ := exists_divides_of_read hread
  have hsize := hdivides.length_eq hheader
  rw [headerSize] at hsize
  obtain ⟨m, error?, hpasses, hstops, hrows⟩ :=
    exists_stops_readRows hcoded bytes.length (bytes.drop headerSize)
  have hbounded := hpasses.bounded (Header.wellFormed_of_read hheader)
  rw [hdivides.body, hdivides.stored.readRows_append] at hrows
  cases hstops with
  | complete hleft =>
      obtain ⟨hbytes, hused⟩ := Prod.mk.inj (Except.ok.inj hrows)
      have hcount := hbounded.rows_add
      have hexpanded := hbounded.bytes_le
      have htaken := hbounded.rows_le
      rw [← hbytes, hdivides.stored.length_rows] at hexpanded
      omega
  | truncated => exact absurd hrows (by simp)
  | overrun => exact absurd hrows (by simp)

/-- **What is expanded is bounded by what was read.**  This holds of every blob with the flag for
compression whose header can be read, whatever size it declares and whether or not the rest of it is
in order. -/
theorem expandsWithin_of_read {bytes : List UInt8} {header : Header}
    (hheader : Header.read bytes = .ok header) (hcoded : header.isCompressed = true) :
    ExpandsWithin bytes header where
  moment := by
    intro m hpasses
    have hbounded := hpasses.bounded (Header.wellFormed_of_read hheader)
    have hused := hbounded.used_le
    have hrows := hbounded.rows_le
    exact ⟨hbounded.bytes_le, hbounded.input, hused, by omega⟩
  stops := exists_stops_readRows hcoded bytes.length (bytes.drop headerSize)
  accepted := by
    intro image hread
    obtain ⟨hheader', -⟩ := exists_divides_of_read hread
    obtain rfl : header = image.header := Except.ok.inj (hheader.symm.trans hheader')
    exact size_le_of_read hread hcoded

/-- Two rows of 128 bytes, each of them one run.  There is a control byte between them that stands
for nothing. -/
def wideBlob : List UInt8 :=
  [1, 0, 0, 2, 0, 4, 0, 0, 2, 0, 0, 0, 128, 0, 0, 0, 0, 0, 0, 0, 129, 255, 128, 129, 0]

theorem expandsWithin_wideBlob :
    Header.read wideBlob = .ok ⟨.monochrome, compressedFlag, 1024, 2, 128, 0⟩ ∧
      (Image.read wideBlob).isOk = true ∧
      ExpandsWithin wideBlob ⟨.monochrome, compressedFlag, 1024, 2, 128, 0⟩ := by
  have hheader : Header.read wideBlob = .ok ⟨.monochrome, compressedFlag, 1024, 2, 128, 0⟩ := rfl
  exact ⟨hheader, by decide +kernel, expandsWithin_of_read hheader rfl⟩

end WatchBitmap
