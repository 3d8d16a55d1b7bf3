import Mathlib.Data.List.Basic
import Mathlib.Tactic.Common
import WatchBitmap.PackBits

/-!
# Coded rows expand to the rows they were made from

Both directions of the run-length coding are read through tokens.  The coder divides a row into
tokens that have control bytes and stand for the row (`wellFormed_of_mem_tokens`,
`flatMap_expand_tokens`); the reader takes any such tokens off the front of its input and leaves
what follows alone (`expandFrom_flatMap_toBytes`).

* `IsRow` — the tokens of a row, whoever wrote them; `expandRows_append` expands rows of them.
* `expandRow_encodeRow_append` — **a coded row expands to the row**, in front of any bytes;
  `readRow_writeRow_append` says so of outputs that grow.
* `isRow_of_mem_map_tokens` — rows that are divided one by one are such rows.
-/

namespace WatchBitmap.PackBits

/-! ## Dividing a row -/

lemma countCopies_le (value : UInt8) (limit : ℕ) (bs : List UInt8) :
    countCopies value limit bs ≤ limit := by
  induction limit generalizing bs with
  | zero => simp [countCopies]
  | succ limit ih =>
      cases bs with
      | nil => simp [countCopies]
      | cons b bs =>
          rw [countCopies]
          split_ifs
          · exact Nat.succ_le_succ (ih bs)
          · exact Nat.zero_le _

/-- The copies that are counted are copies. -/
lemma take_countCopies (value : UInt8) (limit : ℕ) (bs : List UInt8) :
    bs.take (countCopies value limit bs) = List.replicate (countCopies value limit bs) value := by
  induction limit generalizing bs with
  | zero => simp [countCopies]
  | succ limit ih =>
      cases bs with
      | nil => simp [countCopies]
      | cons b bs =>
          rw [countCopies]
          split_ifs with hb
          · rw [List.take_succ_cons, List.replicate_succ, ih bs, hb]
          · simp

lemma runLength_le (row : List UInt8) : runLength row ≤ maxCount := by
  cases row with
  | nil => simp [runLength]
  | cons b bs =>
      have := countCopies_le b (maxCount - 1) bs
      rw [runLength]
      simp only [maxCount] at this ⊢
      omega

/-- The repeat at the front of a row, and what is behind it. -/
lemma replicate_append_drop_runLength (b : UInt8) (bs : List UInt8) :
    List.replicate (runLength (b :: bs)) b ++ bs.drop (runLength (b :: bs) - 1) = b :: bs := by
  rw [runLength, Nat.add_sub_cancel, List.replicate_succ, List.cons_append,
    ← take_countCopies b (maxCount - 1) bs, List.take_append_drop]

lemma literalLength_le (limit : ℕ) (bs : List UInt8) : literalLength limit bs ≤ limit := by
  induction limit generalizing bs with
  | zero => simp [literalLength]
  | succ limit ih =>
      cases bs with
      | nil => simp [literalLength]
      | cons b bs =>
          rw [literalLength]
          split_ifs
          · exact Nat.zero_le _
          · exact Nat.succ_le_succ (ih bs)

/-- **Nothing is lost in dividing a row**: its tokens stand for its bytes. -/
theorem flatMap_expand_tokens (row : List UInt8) : (tokens row).flatMap Token.expand = row := by
  induction row using tokens.induct with
  | case1 => simp [tokens]
  | case2 b bs hrun ih =>
      rw [tokens, if_pos hrun, List.flatMap_cons, ih, Token.expand]
      exact replicate_append_drop_runLength b bs
  | case3 b bs hrun ih =>
      rw [tokens, if_neg hrun, List.flatMap_cons, ih, Token.expand, List.cons_append,
        List.take_append_drop]

/-- Each token of a row is one that has a control byte. -/
lemma wellFormed_of_mem_tokens {row : List UInt8} {t : Token} (ht : t ∈ tokens row) :
    t.WellFormed := by
  induction row using tokens.induct with
  | case1 => simp [tokens] at ht
  | case2 b bs hrun ih =>
      rw [tokens, if_pos hrun, List.mem_cons] at ht
      rcases ht with rfl | ht
      · have hle := runLength_le (b :: bs)
        simp only [minRun, maxCount] at hrun hle
        exact ⟨by omega, hle⟩
      · exact ih ht
  | case3 b bs hrun ih =>
      rw [tokens, if_neg hrun, List.mem_cons] at ht
      rcases ht with rfl | ht
      · have hle := literalLength_le (maxCount - 1) bs
        simp only [maxCount] at hle
        simp only [Token.WellFormed, List.length_cons, List.length_take, maxCount]
        omega
      · exact ih ht

/-- The control byte that stands for nothing is never needed. -/
lemma noOp_not_mem_tokens (row : List UInt8) : Token.noOp ∉ tokens row := by
  induction row using tokens.induct with
  | case1 => simp [tokens]
  | case2 b bs hrun ih => simpa [tokens, hrun] using ih
  | case3 b bs hrun ih => simpa [tokens, hrun] using ih

/-! ## Expanding tokens -/

lemma Token.size_pos {t : Token} (hwf : t.WellFormed) (ht : t ≠ .noOp) : 0 < t.size := by
  cases t with
  | literal bytes => exact hwf.1
  | run count value => exact Nat.lt_of_lt_of_le Nat.two_pos hwf.1
  | noOp => exact absurd rfl ht

/-- **The reader's step**: what it does with the token at the front of its input. -/
lemma expandFrom_of_read? {input rest : List UInt8} {t : Token} {stride need : ℕ}
    (hneed : need ≠ 0) (hread : Token.read? input = some (t, rest)) :
    expandFrom stride need input
      = if need < t.size then ⟨[], 0, some (.overrun stride)⟩
        else (expandFrom stride (need - t.size) rest).after t := by
  rw [expandFrom, if_neg hneed]
  split
  · next heq => rw [hread] at heq; exact absurd heq (by simp)
  · next heq =>
      rw [hread, Option.some.injEq, Prod.mk.injEq] at heq
      obtain ⟨rfl, rfl⟩ := heq
      rfl

/-- Without a token at the front there is nothing to go on with. -/
lemma expandFrom_of_read?_eq_none {input : List UInt8} {stride need : ℕ} (hneed : need ≠ 0)
    (hread : Token.read? input = none) :
    expandFrom stride need input = ⟨[], 0, some .truncated⟩ := by
  rw [expandFrom, if_neg hneed]
  split
  · rfl
  · next heq => rw [hread] at heq; exact absurd heq (by simp)

/-- **One token is read** from its own bytes, as long as it does not reach past the row. -/
lemma expandFrom_toBytes_append {t : Token} (hwf : t.WellFormed) {stride need : ℕ}
    (hneed : need ≠ 0) (hfits : t.size ≤ need) (rest : List UInt8) :
    expandFrom stride need (t.toBytes ++ rest)
      = (expandFrom stride (need - t.size) rest).after t := by
  rw [expandFrom_of_read? hneed (Token.read?_toBytes_append hwf rest),
    if_neg (Nat.not_lt.2 hfits)]

/-- What tokens stand for is as long as their sizes together. -/
lemma length_flatMap_expand_cons (t : Token) (ts : List Token) :
    ((t :: ts).flatMap Token.expand).length = t.size + (ts.flatMap Token.expand).length := by
  rw [List.flatMap_cons, List.length_append, Token.length_expand]

/-- Tokens of which the last stands for something stand for something. -/
lemma length_flatMap_expand_ne_zero {ts : List Token} (hwf : ∀ t ∈ ts, t.WellFormed) (hne : ts ≠ [])
    (hlast : ts.getLast? ≠ some .noOp) : (ts.flatMap Token.expand).length ≠ 0 := by
  have hmem := List.getLast_mem hne
  have hlast : ts.getLast hne ≠ .noOp := by
    intro h
    exact hlast (by rw [List.getLast?_eq_some_getLast hne, h])
  have hpos := Token.size_pos (hwf _ hmem) hlast
  intro hzero
  have hnil := List.flatMap_eq_nil_iff.1 (List.length_eq_zero_iff.1 hzero) _ hmem
  rw [← Token.length_expand, hnil] at hpos
  exact absurd hpos (Nat.lt_irrefl 0)

/-- **Tokens are read one after the other**, up to the last that the row needs.  A control byte
that stands for nothing would not be looked at if it came last, for the row is complete by then. -/
theorem expandFrom_flatMap_toBytes {ts : List Token} (hwf : ∀ t ∈ ts, t.WellFormed)
    (hlast : ts.getLast? ≠ some .noOp) (stride : ℕ) (rest : List UInt8) :
    expandFrom stride (ts.flatMap Token.expand).length (ts.flatMap Token.toBytes ++ rest)
      = ⟨ts.flatMap Token.expand, (ts.flatMap Token.toBytes).length, none⟩ := by
  induction ts with
  | nil => simp [expandFrom]
  | cons t ts ih =>
      have hts : ts.getLast? ≠ some .noOp := by
        intro h
        exact hlast (by rw [List.getLast?_cons, h, Option.getD_some])
      have hneed := length_flatMap_expand_ne_zero hwf (List.cons_ne_nil t ts) hlast
      have hlen := length_flatMap_expand_cons t ts
      rw [List.flatMap_cons (f := Token.toBytes), List.append_assoc,
        expandFrom_toBytes_append (hwf t List.mem_cons_self) hneed (by omega), hlen,
        Nat.add_sub_cancel_left, ih (fun u hu => hwf u (List.mem_cons_of_mem t hu)) hts,
        Expansion.after, List.flatMap_cons, List.length_append]

/-! ## Rows -/

/-- **The tokens of a row** of `stride` bytes.  A control byte that stands for nothing is looked at
only while the row is not complete, so it is never the last of them. -/
structure IsRow (stride : ℕ) (ts : List Token) : Prop where
  wellFormed : ∀ t ∈ ts, t.WellFormed
  last : ts.getLast? ≠ some .noOp
  length : (ts.flatMap Token.expand).length = stride

/-- The tokens of a row are tokens of a row. -/
lemma isRow_tokens (row : List UInt8) : IsRow row.length (tokens row) where
  wellFormed := fun _ ht => wellFormed_of_mem_tokens ht
  last := fun h => noOp_not_mem_tokens row (List.mem_of_getLast? h)
  length := by rw [flatMap_expand_tokens]

/-- **A row is expanded** in front of any bytes, and what follows it is left alone. -/
theorem IsRow.expandRow_append {stride : ℕ} {ts : List Token} (h : IsRow stride ts)
    (rest : List UInt8) :
    expandRow stride (ts.flatMap Token.toBytes ++ rest)
      = ⟨ts.flatMap Token.expand, (ts.flatMap Token.toBytes).length, none⟩ := by
  have hexpand := expandFrom_flatMap_toBytes h.wellFormed h.last stride rest
  rw [h.length] at hexpand
  exact hexpand

/-- **Rows are expanded one after the other.**  The induction is on the rows: each leaves the bytes
of those behind it for the next. -/
theorem expandRows_append {stride : ℕ} {rows : List (List Token)}
    (h : ∀ ts ∈ rows, IsRow stride ts) (rest : List UInt8) :
    expandRows stride rows.length (rows.flatten.flatMap Token.toBytes ++ rest)
      = ⟨⟨rows.flatten.flatMap Token.expand, (rows.flatten.flatMap Token.toBytes).length, none⟩,
          rows.length⟩ := by
  induction rows with
  | nil => rfl
  | cons ts rows ih =>
      have hrow := (h ts List.mem_cons_self).expandRow_append
        (rows.flatten.flatMap Token.toBytes ++ rest)
      have hrows := ih fun us hus => h us (List.mem_cons_of_mem ts hus)
      rw [List.length_cons, expandRows, List.flatten_cons, List.flatMap_append,
        List.flatMap_append, List.append_assoc, hrow]
      simp only [List.drop_left, hrows, List.length_append]

/-- **A coded row expands to the row.** -/
theorem expandRow_encodeRow_append (row rest : List UInt8) :
    expandRow row.length (encodeRow row ++ rest) = ⟨row, (encodeRow row).length, none⟩ := by
  have hexpand := (isRow_tokens row).expandRow_append rest
  rw [flatMap_expand_tokens] at hexpand
  exact hexpand

/-- **A row is written behind what is there and read from there**, whatever is in front of its code,
behind it, and in front of the row that it expands to. -/
theorem readRow_writeRow_append (row before out rest : List UInt8) :
    writeRow before row = before ++ writeRow [] row ∧
      readRow out row.length (writeRow [] row ++ rest)
        = (out ++ row, .ok (writeRow [] row).length) := by
  have hcode : writeRow [] row = encodeRow row := List.nil_append _
  rw [hcode]
  refine ⟨rfl, ?_⟩
  rw [readRow, expandRow_encodeRow_append]

section Rows

variable {stride : ℕ} {rows : List (List UInt8)}

/-- Rows that are divided one by one are rows of tokens. -/
lemma isRow_of_mem_map_tokens (h : ∀ row ∈ rows, row.length = stride) :
    ∀ ts ∈ rows.map tokens, IsRow stride ts := by
  intro ts hts
  obtain ⟨row, hrow, rfl⟩ := List.mem_map.1 hts
  rw [← h row hrow]
  exact isRow_tokens row

lemma flatMap_toBytes_map_tokens (rows : List (List UInt8)) :
    (rows.map tokens).flatten.flatMap Token.toBytes = rows.flatMap encodeRow := by
  rw [← List.flatMap_def, List.flatMap_assoc]
  rfl

lemma flatMap_expand_map_tokens (rows : List (List UInt8)) :
    (rows.map tokens).flatten.flatMap Token.expand = rows.flatten := by
  rw [← List.flatMap_def, List.flatMap_assoc]
  simp only [flatMap_expand_tokens, List.flatMap_id']

end Rows

end WatchBitmap.PackBits
