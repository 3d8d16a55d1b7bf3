import Mathlib.Data.List.Basic
import Mathlib.Tactic.Common
import WatchBitmap.Proofs.RowGrowth

/-!
# The one division of a row that the coder chooses

Many sequences of tokens stand for the same row, and a reader takes all of them.  The coder's
sequence is told from the others token by token.  A run takes all the copies that a token can, and
it takes three of them at least.  A literal goes on to the next place at which three copies begin,
where a run has to follow, and it is cut earlier only if it is full.

* `RepeatAt` — three copies of a byte begin at a position of a row.
* `Token.Settled` — what the coder sees to when it puts a token at a position of a row.
* `Canonical` — a sequence of such tokens; `canonical_cons_iff` takes the first one off.
* `canonical_encodeRow` — **a coded row is written by the one canonical sequence of tokens** that
  stands for it.
-/

namespace WatchBitmap.PackBits

/-! ## Where repeats begin -/

/-- Three copies of a byte begin at position `j`. -/
def RepeatAt (row : List UInt8) (j : ℕ) : Prop :=
  ∃ b, row[j]? = some b ∧ row[j + 1]? = some b ∧ row[j + 2]? = some b

lemma repeatAt_append_iff (front rest : List UInt8) (j : ℕ) :
    RepeatAt (front ++ rest) (front.length + j) ↔ RepeatAt rest j := by
  have hplace (k : ℕ) : (front ++ rest)[front.length + k]? = rest[k]? := by
    rw [List.getElem?_append_right (Nat.le_add_right _ _), Nat.add_sub_cancel_left]
  simp only [RepeatAt, Nat.add_assoc, hplace]

lemma repeatAt_cons_succ_iff (b : UInt8) (bs : List UInt8) (j : ℕ) :
    RepeatAt (b :: bs) (j + 1) ↔ RepeatAt bs j := by
  rw [Nat.add_comm]
  exact repeatAt_append_iff [b] bs j

lemma repeatAt_replicate_append {count : ℕ} (hcount : 3 ≤ count) (value : UInt8)
    (rest : List UInt8) : RepeatAt (List.replicate count value ++ rest) 0 := by
  obtain ⟨n, rfl⟩ := Nat.exists_eq_add_of_le' hcount
  exact ⟨value, rfl, rfl, rfl⟩

/-- **The coder looks for repeats**: it finds one where three copies begin. -/
lemma minRun_le_runLength_iff (row : List UInt8) : minRun ≤ runLength row ↔ RepeatAt row 0 := by
  rcases row with _ | ⟨b, bs⟩
  · simp [minRun, runLength, RepeatAt]
  constructor
  · intro hrun
    rw [← replicate_append_drop_runLength b bs]
    exact repeatAt_replicate_append hrun b _
  · rintro ⟨value, hfirst, hsecond, hthird⟩
    obtain rfl := Option.some.inj hfirst
    rcases bs with _ | ⟨c, _ | ⟨d, rest⟩⟩
    · exact absurd hsecond (by simp)
    · exact absurd hthird (by simp)
    · obtain rfl := Option.some.inj hsecond
      obtain rfl := Option.some.inj hthird
      simp [minRun, maxCount, runLength, countCopies]

/-! ## How far a run reaches -/

/-- **Copies are counted** up to the limit or up to another byte. -/
lemma countCopies_replicate_append {value : UInt8} {limit n : ℕ} {rest : List UInt8}
    (hle : n ≤ limit) (hstop : n = limit ∨ rest.head? ≠ some value) :
    countCopies value limit (List.replicate n value ++ rest) = n := by
  induction n generalizing limit with
  | zero =>
      cases limit with
      | zero => rfl
      | succ limit =>
          have hrest : rest.head? ≠ some value := hstop.resolve_left (Nat.succ_ne_zero limit).symm
          cases rest with
          | nil => rfl
          | cons b bs => exact if_neg fun hb => hrest (congrArg some hb)
  | succ n ih =>
      obtain ⟨limit, rfl⟩ := Nat.exists_eq_add_of_le' (Nat.le_trans (Nat.le_add_left 1 n) hle)
      rw [List.replicate_succ, List.cons_append, countCopies, if_pos rfl,
        ih (Nat.le_of_succ_le_succ hle) (hstop.imp_left Nat.succ.inj)]

lemma head?_drop_countCopies (value : UInt8) (limit : ℕ) (bs : List UInt8) :
    countCopies value limit bs = limit ∨
      (bs.drop (countCopies value limit bs)).head? ≠ some value := by
  induction limit generalizing bs with
  | zero => exact .inl rfl
  | succ limit ih =>
      cases bs with
      | nil => exact .inr (by simp)
      | cons b bs =>
          rw [countCopies]
          split_ifs with hb
          · rw [List.drop_succ_cons, Nat.succ_inj]
            exact ih bs
          · exact .inr (by simpa using hb)

/-- **A run is one token** if it takes all the copies that a token can. -/
lemma tokens_replicate_append {count : ℕ} {value : UInt8} {rest : List UInt8} (hmin : 3 ≤ count)
    (hmax : count ≤ 128) (hstop : count = 128 ∨ rest.head? ≠ some value) :
    tokens (List.replicate count value ++ rest) = .run count value :: tokens rest := by
  have hrun := (minRun_le_runLength_iff _).2 (repeatAt_replicate_append hmin value rest)
  obtain ⟨n, rfl⟩ := Nat.exists_eq_add_of_le' (Nat.le_trans (by decide : 1 ≤ 3) hmin)
  have hlength : runLength (value :: (List.replicate n value ++ rest)) = n + 1 := by
    rw [runLength, countCopies_replicate_append (by simp only [maxCount]; omega)
      (hstop.imp_left fun h => by simp only [maxCount]; omega)]
  rw [List.replicate_succ, List.cons_append] at hrun ⊢
  rw [tokens, if_pos hrun, hlength, Nat.add_sub_cancel,
    List.drop_left' List.length_replicate]

/-! ## How far a literal reaches -/

lemma not_repeatAt_of_lt_literalLength {limit j : ℕ} {bs : List UInt8}
    (hj : j < literalLength limit bs) : ¬ RepeatAt bs j := by
  induction limit generalizing bs j with
  | zero => exact absurd hj (Nat.not_lt_zero j)
  | succ limit ih =>
      cases bs with
      | nil => exact absurd hj (Nat.not_lt_zero j)
      | cons b bs =>
          rw [literalLength] at hj
          split_ifs at hj with hrun
          · exact absurd hj (Nat.not_lt_zero j)
          · cases j with
            | zero => exact fun h => hrun ((minRun_le_runLength_iff _).2 h)
            | succ j =>
                rw [repeatAt_cons_succ_iff]
                exact ih (Nat.lt_of_succ_lt_succ hj)

/-- Bytes in which no repeat begins: the first of them and the others. -/
lemma not_repeatAt_cons {b : UInt8} {bs rest : List UInt8}
    (hfree : ∀ j < (b :: bs).length, ¬ RepeatAt (b :: bs ++ rest) j) :
    ¬ minRun ≤ runLength (b :: (bs ++ rest)) ∧ ∀ j < bs.length, ¬ RepeatAt (bs ++ rest) j := by
  constructor
  · rw [minRun_le_runLength_iff]
    exact hfree 0 (Nat.succ_pos _)
  · intro j hj
    rw [← repeatAt_cons_succ_iff b]
    exact hfree (j + 1) (Nat.succ_lt_succ hj)

/-- **The bytes of a literal are counted** up to the limit, the end of the row or a repeat. -/
lemma literalLength_append {limit : ℕ} {bytes rest : List UInt8} (hle : bytes.length ≤ limit)
    (hfree : ∀ j < bytes.length, ¬ RepeatAt (bytes ++ rest) j)
    (hstop : bytes.length = limit ∨ rest = [] ∨ RepeatAt rest 0) :
    literalLength limit (bytes ++ rest) = bytes.length := by
  induction bytes generalizing limit with
  | nil =>
      rcases limit with _ | limit
      · rfl
      · rcases hstop with hlimit | rfl | hrepeat
        · exact absurd hlimit (Nat.succ_ne_zero limit).symm
        · rfl
        · cases rest with
          | nil => rfl
          | cons b bs => exact if_pos ((minRun_le_runLength_iff _).2 hrepeat)
  | cons b bs ih =>
      obtain ⟨limit, rfl⟩ := Nat.exists_eq_add_of_le'
        (Nat.le_trans (Nat.le_add_left 1 bs.length) hle)
      obtain ⟨hrun, htail⟩ := not_repeatAt_cons hfree
      rw [List.cons_append, literalLength, if_neg hrun,
        ih (Nat.le_of_succ_le_succ hle) htail (hstop.imp_left Nat.succ.inj), List.length_cons]

/-- **A literal is one token** if no repeat begins in it and it goes on as far as it can. -/
lemma tokens_literal_append {bytes rest : List UInt8} (hmin : 1 ≤ bytes.length)
    (hmax : bytes.length ≤ 128) (hfree : ∀ j < bytes.length, ¬ RepeatAt (bytes ++ rest) j)
    (hstop : bytes.length = 128 ∨ rest = [] ∨ RepeatAt rest 0) :
    tokens (bytes ++ rest) = .literal bytes :: tokens rest := by
  obtain ⟨b, bs, rfl⟩ := List.exists_cons_of_length_pos hmin
  obtain ⟨hrun, htail⟩ := not_repeatAt_cons hfree
  have hlength : literalLength (maxCount - 1) (bs ++ rest) = bs.length :=
    literalLength_append (Nat.le_of_succ_le_succ hmax) htail (hstop.imp_left Nat.succ.inj)
  rw [List.cons_append, tokens, if_neg hrun, hlength, List.take_left, List.drop_left]

/-! ## Canonical sequences -/

/-- **What the coder sees to** when it puts a token at position `start` of a row, in front of the
tokens `after`. -/
def Token.Settled (row : List UInt8) (start : ℕ) (after : List Token) : Token → Prop
  | run count value =>
      -- it is worth a token, and it ends where it must
      3 ≤ count ∧ count ≤ 128 ∧
        (count = 128 ∨ start + count = row.length ∨
          ∃ next, row[start + count]? = some next ∧ next ≠ value)
  | literal bytes =>
      -- no run was missed, and it is not cut without need
      1 ≤ bytes.length ∧ bytes.length ≤ 128 ∧
        (∀ j, start ≤ j → j < start + bytes.length → ¬ RepeatAt row j) ∧
        (∀ next ts, after = .literal next :: ts → bytes.length = 128)
  | noOp => False

/-- **The canonical sequence of tokens** for a row. -/
structure Canonical (row : List UInt8) (ts : List Token) : Prop where
  /-- The tokens stand for the row. -/
  expand : ts.flatMap Token.expand = row
  /-- The control byte that stands for nothing is not written. -/
  control : ∀ t ∈ ts, t.toBytes.head? ≠ some 128
  /-- Each token is as the coder chooses it at its position. -/
  settled : ∀ before t after, ts = before ++ t :: after →
    t.Settled row (before.flatMap Token.expand).length after

lemma ofNat_ne_noOp {n : ℕ} (hlt : n < 256) (hne : n ≠ 128) : UInt8.ofNat n ≠ 128 := by
  intro heq
  have hn := congrArg UInt8.toNat heq
  rw [UInt8.toNat_ofNat_of_lt' hlt] at hn
  exact hne hn

lemma Token.Settled.head?_toBytes {row : List UInt8} {start : ℕ} {after : List Token} {t : Token}
    (h : t.Settled row start after) : t.toBytes.head? ≠ some 128 := by
  intro hhead
  cases t with
  | run count value =>
      obtain ⟨hmin, hmax, -⟩ := h
      exact ofNat_ne_noOp (by omega) (by omega) (Option.some.inj hhead)
  | literal bytes =>
      obtain ⟨hmin, hmax, -⟩ := h
      exact ofNat_ne_noOp (by omega) (by omega) (Option.some.inj hhead)
  | noOp => exact h

/-- What the coder sees to depends on the row from the token's position on. -/
lemma Token.settled_append_iff {front rest : List UInt8} {start : ℕ} {after : List Token}
    {t : Token} :
    t.Settled (front ++ rest) (front.length + start) after ↔ t.Settled rest start after := by
  cases t with
  | run count value =>
      have hplace : (front ++ rest)[front.length + (start + count)]? = rest[start + count]? := by
        rw [List.getElem?_append_right (Nat.le_add_right _ _), Nat.add_sub_cancel_left]
      simp only [Token.Settled, List.length_append, Nat.add_assoc, hplace, Nat.add_left_cancel_iff]
  | literal bytes =>
      refine and_congr_right' (and_congr_right' (and_congr_left' ?_))
      constructor
      · intro hfree j hstart hend hrepeat
        exact hfree (front.length + j) (by omega) (by omega)
          ((repeatAt_append_iff front rest j).2 hrepeat)
      · intro hfree j hstart hend hrepeat
        obtain ⟨j, rfl⟩ := Nat.exists_eq_add_of_le (Nat.le_trans (Nat.le_add_right _ start) hstart)
        exact hfree j (by omega) (by omega) ((repeatAt_append_iff front rest j).1 hrepeat)
  | noOp => rfl

/-- **The first token is taken off** a canonical sequence: the others are canonical for the rest of
the row. -/
lemma canonical_cons_iff {row : List UInt8} {t : Token} {ts : List Token} :
    Canonical row (t :: ts) ↔
      ∃ rest, row = t.expand ++ rest ∧ t.Settled row 0 ts ∧ Canonical rest ts := by
  constructor
  · rintro ⟨rfl, hcontrol, hsettled⟩
    refine ⟨_, List.flatMap_cons, hsettled [] t ts rfl, rfl, ?_, ?_⟩
    · exact fun u hu => hcontrol u (List.mem_cons_of_mem t hu)
    · rintro before u after rfl
      have hu := hsettled (t :: before) u after rfl
      rw [length_flatMap_expand_cons, ← Token.length_expand, List.flatMap_cons] at hu
      exact Token.settled_append_iff.1 hu
  · rintro ⟨rest, rfl, ht, rfl, hcontrol, hsettled⟩
    refine ⟨List.flatMap_cons, List.forall_mem_cons.2 ⟨ht.head?_toBytes, hcontrol⟩, ?_⟩
    intro before u after hsplit
    cases before with
    | nil =>
        obtain ⟨rfl, rfl⟩ := List.cons.inj hsplit
        exact ht
    | cons v before =>
        obtain ⟨rfl, rfl⟩ := List.cons.inj hsplit
        rw [length_flatMap_expand_cons, ← Token.length_expand]
        exact Token.settled_append_iff.2 (hsettled before u after rfl)

lemma canonical_nil : Canonical [] [] where
  expand := rfl
  control := by simp
  settled := by simp

/-! ## The coder's sequence -/

lemma settled_run {b : UInt8} {bs : List UInt8} (hrun : minRun ≤ runLength (b :: bs))
    (after : List Token) :
    (Token.run (runLength (b :: bs)) b).Settled (b :: bs) 0 after := by
  have hle := runLength_le (b :: bs)
  have hlength := runLength_le_length b bs
  refine ⟨hrun, hle, ?_⟩
  rw [Nat.zero_add]
  rcases head?_drop_countCopies b (maxCount - 1) bs with hfull | hstop
  · exact .inl (congrArg Nat.succ hfull)
  · rw [List.head?_drop] at hstop
    cases hnext : bs[countCopies b (maxCount - 1) bs]? with
    | none =>
        have hend := List.getElem?_eq_none_iff.1 hnext
        exact .inr (.inl (Nat.le_antisymm hlength (Nat.succ_le_succ hend)))
    | some next => exact .inr (.inr ⟨next, hnext, fun h => hstop (hnext.trans (congrArg some h))⟩)

/-- A run stands in front of its copies, so the tokens of a row with a repeat do not begin with a
literal. -/
lemma tokens_ne_literal {row : List UInt8} (hrow : row = [] ∨ minRun ≤ runLength row)
    (bytes : List UInt8) (ts : List Token) : tokens row ≠ .literal bytes :: ts := by
  cases row with
  | nil => simp [tokens]
  | cons b bs =>
      rw [tokens, if_pos (hrow.resolve_left (List.cons_ne_nil b bs))]
      simp

/-- A literal goes on to a repeat, to the end of the row, or until it is full. -/
lemma settled_literal {b : UInt8} {bs : List UInt8} (hliteral : ¬ minRun ≤ runLength (b :: bs)) :
    (Token.literal (b :: bs.take (literalLength (maxCount - 1) bs))).Settled (b :: bs) 0
      (tokens (bs.drop (literalLength (maxCount - 1) bs))) := by
  have hlength : (b :: bs.take (literalLength (maxCount - 1) bs)).length
      = literalLength (maxCount - 1) bs + 1 := by
    rw [List.length_cons, List.length_take_of_le (literalLength_le_length (maxCount - 1) bs)]
  have hle := literalLength_le (maxCount - 1) bs
  simp only [Token.Settled, hlength, Nat.zero_add]
  refine ⟨Nat.succ_pos _, Nat.succ_le_succ hle, ?_, ?_⟩
  · intro j _ hj
    cases j with
    | zero => rwa [← minRun_le_runLength_iff]
    | succ j =>
        rw [repeatAt_cons_succ_iff]
        exact not_repeatAt_of_lt_literalLength (Nat.lt_of_succ_lt_succ hj)
  · intro next ts hnext
    rcases drop_literalLength_cases (maxCount - 1) bs with hend | hfull | hrun
    · exact absurd hnext (tokens_ne_literal (.inl hend) next ts)
    · exact congrArg Nat.succ hfull
    · exact absurd hnext (tokens_ne_literal (.inr hrun) next ts)

/-- **The coder's tokens are canonical.**  The induction is on the division of the row. -/
theorem canonical_tokens (row : List UInt8) : Canonical row (tokens row) := by
  induction row using tokens.induct with
  | case1 =>
      rw [tokens]
      exact canonical_nil
  | case2 b bs hrun ih =>
      rw [tokens, if_pos hrun, canonical_cons_iff]
      exact ⟨_, (replicate_append_drop_runLength b bs).symm, settled_run hrun _, ih⟩
  | case3 b bs hliteral ih =>
      rw [tokens, if_neg hliteral, canonical_cons_iff]
      refine ⟨_, ?_, settled_literal hliteral, ih⟩
      rw [Token.expand, List.cons_append, List.take_append_drop]

/-- The copies of `2` are worth a run, and those of `1` are not. -/
example : tokens [1, 1, 2, 2, 2] = [.literal [1, 1], .run 3 2] := by cbv

/-- Where a literal is not full, the row ends or a run follows. -/
lemma Canonical.repeatAt_zero {row : List UInt8} {ts : List Token} (h : Canonical row ts)
    (hts : ∀ next us, ts ≠ .literal next :: us) : row = [] ∨ RepeatAt row 0 := by
  cases ts with
  | nil => exact .inl h.expand.symm
  | cons t ts =>
      obtain ⟨rest, rfl, ht, -⟩ := canonical_cons_iff.1 h
      cases t with
      | run count value => exact .inr (repeatAt_replicate_append ht.1 value rest)
      | literal bytes => exact absurd rfl (hts bytes ts)
      | noOp => exact ht.elim

lemma head?_ne_of_settled_run {count : ℕ} {value : UInt8} {rest : List UInt8} {after : List Token}
    (h : (Token.run count value).Settled (List.replicate count value ++ rest) 0 after) :
    count = 128 ∨ rest.head? ≠ some value := by
  obtain ⟨-, -, hfull | hend | ⟨next, hnext, hne⟩⟩ := h
  · exact .inl hfull
  · rw [Nat.zero_add, List.length_append, List.length_replicate] at hend
    obtain rfl := List.length_eq_zero_iff.1 (Nat.add_eq_left.1 hend.symm)
    exact .inr (by simp)
  · rw [Nat.zero_add, List.getElem?_append_right (by simp), List.length_replicate, Nat.sub_self,
      ← List.head?_eq_getElem?] at hnext
    refine .inr fun hhead => hne ?_
    exact Option.some.inj (hnext.symm.trans hhead)

/-- **There is no other canonical sequence.**  The induction is on the sequence: its first token is
the one that the coder begins with. -/
theorem Canonical.eq_tokens {row : List UInt8} {ts : List Token} (h : Canonical row ts) :
    ts = tokens row := by
  induction ts generalizing row with
  | nil =>
      obtain rfl := h.expand
      rw [List.flatMap_nil, tokens]
  | cons t ts ih =>
      obtain ⟨rest, rfl, ht, hrest⟩ := canonical_cons_iff.1 h
      rw [ih hrest]
      cases t with
      | run count value =>
          exact (tokens_replicate_append ht.1 ht.2.1 (head?_ne_of_settled_run ht)).symm
      | literal bytes =>
          obtain ⟨hmin, hmax, hfree, hnext⟩ := ht
          have hfree : ∀ j < bytes.length, ¬ RepeatAt (bytes ++ rest) j :=
            fun j hj => hfree j (Nat.zero_le j) (by omega)
          have hstop : bytes.length = 128 ∨ rest = [] ∨ RepeatAt rest 0 := by
            by_cases hfull : bytes.length = 128
            · exact .inl hfull
            · exact .inr (hrest.repeatAt_zero fun next us hts => hfull (hnext next us hts))
          exact (tokens_literal_append hmin hmax hfree hstop).symm
      | noOp => exact ht.elim

/-- **A coded row is canonical**, and nothing else is canonical for the row. -/
theorem canonical_encodeRow (row : List UInt8) :
    ∃ ts : List Token, encodeRow row = ts.flatMap Token.toBytes ∧ Canonical row ts ∧
      ∀ us, Canonical row us → us = ts :=
  ⟨tokens row, rfl, canonical_tokens row, fun _ hus => hus.eq_tokens⟩

end WatchBitmap.PackBits
