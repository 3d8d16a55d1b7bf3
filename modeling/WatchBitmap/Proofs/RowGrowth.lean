import Mathlib.Tactic.Common
import WatchBitmap.Proofs.RowCoding

/-!
# How much longer run-length coding makes a row

A literal is written with one byte more than it stands for, and a run of three or more bytes with
at least one byte less.  A literal that is neither full nor the last token of its row stands in
front of a run (`drop_literalLength_cases`), and the run pays for it.  What is left to be paid are
full literals, of 128 bytes each, and the last token.

* `spare` — the byte that a run at the front of a row has to spare; the induction over the tokens of
  a row carries it from the run to the literal in front (`length_encodeRow_add_spare_le`).
* `length_encodeRow_le` — **coding adds at most one byte for every 128 bytes that are begun.**
-/

namespace WatchBitmap.PackBits

/-! ## Where tokens end -/

lemma runLength_le_length (b : UInt8) (bs : List UInt8) :
    runLength (b :: bs) ≤ (b :: bs).length := by
  have h := congrArg List.length (replicate_append_drop_runLength b bs)
  simp only [List.length_append, List.length_replicate, List.length_drop, List.length_cons] at h ⊢
  omega

lemma literalLength_le_length (limit : ℕ) (bs : List UInt8) :
    literalLength limit bs ≤ bs.length := by
  induction limit generalizing bs with
  | zero => exact Nat.zero_le _
  | succ limit ih =>
      cases bs with
      | nil => simp [literalLength]
      | cons b bs =>
          rw [literalLength]
          split_ifs
          · exact Nat.zero_le _
          · exact Nat.succ_le_succ (ih bs)

/-- **A literal ends** with the row, at its limit, or in front of a run. -/
lemma drop_literalLength_cases (limit : ℕ) (bs : List UInt8) :
    bs.drop (literalLength limit bs) = [] ∨ literalLength limit bs = limit ∨
      minRun ≤ runLength (bs.drop (literalLength limit bs)) := by
  induction limit generalizing bs with
  | zero => exact .inr (.inl rfl)
  | succ limit ih =>
      cases bs with
      | nil => exact .inl List.drop_nil
      | cons b bs =>
          rw [literalLength]
          split_ifs with hrun
          · exact .inr (.inr hrun)
          · rw [List.drop_succ_cons, Nat.succ_inj]
            exact ih bs

/-! ## What tokens cost -/

lemma length_encodeRow_of_run {b : UInt8} {bs : List UInt8} (h : minRun ≤ runLength (b :: bs)) :
    (encodeRow (b :: bs)).length = 2 + (encodeRow (bs.drop (runLength (b :: bs) - 1))).length := by
  rw [encodeRow, tokens, if_pos h, List.flatMap_cons, List.length_append]
  rfl

lemma length_encodeRow_of_literal {b : UInt8} {bs : List UInt8}
    (h : ¬ minRun ≤ runLength (b :: bs)) :
    (encodeRow (b :: bs)).length = literalLength (maxCount - 1) bs + 2
      + (encodeRow (bs.drop (literalLength (maxCount - 1) bs))).length := by
  have hle := literalLength_le_length (maxCount - 1) bs
  rw [encodeRow, tokens, if_neg h, List.flatMap_cons, List.length_append, Token.toBytes,
    List.length_cons, List.length_cons, List.length_take_of_le hle]
  rfl

/-- The byte that a run at the front of a row saves, at least. -/
def spare (row : List UInt8) : ℕ :=
  if minRun ≤ runLength row then 1 else 0

/-- **Each literal is paid for**: by the run behind it, or by the 128 bytes that it fills, or it is
the last token.  The induction is on the tokens of the row. -/
lemma length_encodeRow_add_spare_le (row : List UInt8) :
    (encodeRow row).length + spare row ≤ row.length + (row.length + 127) / 128 := by
  induction row using tokens.induct with
  | case1 => simp [encodeRow, tokens, spare, runLength, minRun]
  | case2 b bs hrun ih =>
      have hlen := runLength_le_length b bs
      have hspare : spare (b :: bs) = 1 := if_pos hrun
      rw [length_encodeRow_of_run hrun, hspare]
      simp only [minRun, List.length_drop, List.length_cons] at hrun hlen ih ⊢
      omega
  | case3 b bs hliteral ih =>
      have hlen := literalLength_le_length (maxCount - 1) bs
      have hspare : spare (b :: bs) = 0 := if_neg hliteral
      rw [length_encodeRow_of_literal hliteral, hspare]
      rcases drop_literalLength_cases (maxCount - 1) bs with hlast | hfull | hrun
      · have hnil : (encodeRow []).length = 0 := by simp [encodeRow, tokens]
        simp only [hlast, hnil, List.length_cons]
        omega
      · simp only [maxCount, List.length_drop, List.length_cons] at hfull hlen ih ⊢
        omega
      · have hpaid : spare (bs.drop (literalLength (maxCount - 1) bs)) = 1 := if_pos hrun
        rw [hpaid] at ih
        simp only [List.length_drop, List.length_cons] at hlen ih ⊢
        omega

/-- **The growth of a row.**  Coding a row of `n` bytes takes at most `n` bytes and one more for
every 128 bytes that are begun. -/
theorem length_encodeRow_le (row : List UInt8) :
    (encodeRow row).length ≤ row.length + (row.length + 127) / 128 :=
  Nat.le_of_add_right_le (length_encodeRow_add_spare_le row)

end WatchBitmap.PackBits
