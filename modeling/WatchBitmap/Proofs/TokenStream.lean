import Mathlib.Data.List.Basic
import Mathlib.Tactic.Common
import WatchBitmap.Proofs.RowCoding

/-!
# What the reader of coded rows makes of arbitrary bytes

Bytes are read as tokens in one way only: the control byte says how long a token is, and a token of
which bytes are missing is none (`Token.toBytes_append_inj`, `Token.read?_take_toBytes`).  From that
follow three facts about rows, none of which supposes that an encoder wrote them.

* `reads_expandFrom` — **the reader, case by case**: it takes complete tokens off the front until
  they make up the row, until one reaches past it, or until none is there.
* `exists_rows_of_expandRows` — rows that expand without complaint are rows of tokens.
* `isRow_unique`, `rows_unique` — there is one way to divide bytes into such rows.
* `error?_expandRows_take` — **rows that are cut short** are found to be cut short.
-/

namespace WatchBitmap.PackBits

/-! ## Tokens by their bytes -/

/-- **Tokens are told apart by their bytes**, whatever follows them. -/
lemma Token.toBytes_append_inj {t t' : Token} (ht : t.WellFormed) (ht' : t'.WellFormed)
    {rest rest' : List UInt8} (h : t.toBytes ++ rest = t'.toBytes ++ rest') :
    t = t' ∧ rest = rest' := by
  have hread := Token.read?_toBytes_append ht rest
  rw [h, Token.read?_toBytes_append ht' rest', Option.some.injEq, Prod.mk.injEq] at hread
  exact ⟨hread.1.symm, hread.2.symm⟩

/-- A token is not read before all its bytes are there.  Were some token read, the bytes that are
missing would have to follow it. -/
lemma Token.read?_take_toBytes {t : Token} (ht : t.WellFormed) {k : ℕ}
    (hk : k < t.toBytes.length) : Token.read? (t.toBytes.take k) = none := by
  rcases hread : Token.read? (t.toBytes.take k) with _ | ⟨t', rest⟩
  · rfl
  · obtain ⟨ht', hfront⟩ := Token.eq_of_read? hread
    have hwhole : t.toBytes ++ [] = t'.toBytes ++ (rest ++ t.toBytes.drop k) := by
      rw [List.append_nil, ← List.append_assoc, ← hfront, List.take_append_drop]
    obtain ⟨-, hrest⟩ := Token.toBytes_append_inj ht ht' hwhole
    have hmissing : t.toBytes.drop k = [] := (List.append_eq_nil_iff.1 hrest.symm).2
    exact absurd hk (Nat.not_lt.2 (List.drop_eq_nil_iff.1 hmissing))

/-! ## The reader, case by case -/

/-- **What can become of a row** of which `need` bytes are to come.  In each case the input begins
with complete tokens, and the expansion is theirs. -/
inductive Reads (stride need : ℕ) : List UInt8 → Expansion → Prop
  | complete {ts : List Token} {rest : List UInt8} (hrow : IsRow need ts) :
      Reads stride need (ts.flatMap Token.toBytes ++ rest)
        ⟨ts.flatMap Token.expand, (ts.flatMap Token.toBytes).length, none⟩
  | overrun {ts : List Token} {t : Token} {rest : List UInt8} (hwf : ∀ u ∈ ts, u.WellFormed)
      (hshort : (ts.flatMap Token.expand).length < need) (ht : t.WellFormed)
      (hpast : need < (ts.flatMap Token.expand).length + t.size) :
      Reads stride need (ts.flatMap Token.toBytes ++ (t.toBytes ++ rest))
        ⟨ts.flatMap Token.expand, (ts.flatMap Token.toBytes).length, some (.overrun stride)⟩
  | truncated {ts : List Token} {tail : List UInt8} (hwf : ∀ u ∈ ts, u.WellFormed)
      (hshort : (ts.flatMap Token.expand).length < need) (htail : Token.read? tail = none) :
      Reads stride need (ts.flatMap Token.toBytes ++ tail)
        ⟨ts.flatMap Token.expand, (ts.flatMap Token.toBytes).length, some .truncated⟩

/-- The tokens of a row are one more if the row is longer by that one. -/
lemma IsRow.cons {need : ℕ} {t : Token} {ts : List Token} (h : IsRow (need - t.size) ts)
    (ht : t.WellFormed) (hneed : need ≠ 0) (hfits : t.size ≤ need) : IsRow need (t :: ts) where
  wellFormed := List.forall_mem_cons.2 ⟨ht, h.wellFormed⟩
  last := by
    intro hlast
    have hlen := h.length
    rw [List.getLast?_cons, Option.some.injEq] at hlast
    cases hts : ts.getLast? with
    | some u => exact h.last (by rw [hts]; rw [hts] at hlast; exact congrArg some hlast)
    | none =>
        -- the token is the only one, so it cannot be the one that stands for nothing
        rw [hts, Option.getD_none] at hlast
        rw [List.getLast?_eq_none_iff] at hts
        subst hts hlast
        exact hneed (by simpa [Token.size] using hlen.symm)
  length := by
    rw [length_flatMap_expand_cons, h.length]
    omega

/-- The tokens behind the first make up what that one leaves of the row. -/
lemma IsRow.tail {need : ℕ} {t : Token} {ts : List Token} (h : IsRow need (t :: ts)) :
    IsRow (need - t.size) ts where
  wellFormed := fun u hu => h.wellFormed u (List.mem_cons_of_mem t hu)
  last := by
    intro hlast
    exact h.last (by rw [List.getLast?_cons, hlast, Option.getD_some])
  length := by
    have hlen := h.length
    rw [length_flatMap_expand_cons] at hlen
    omega

/-- The first token of a row fits into the row, which is not empty. -/
lemma IsRow.head {need : ℕ} {t : Token} {ts : List Token} (h : IsRow need (t :: ts)) :
    t.WellFormed ∧ need ≠ 0 ∧ t.size ≤ need := by
  have hlen := h.length
  have hpos := length_flatMap_expand_ne_zero h.wellFormed (List.cons_ne_nil t ts) h.last
  rw [hlen] at hpos
  rw [length_flatMap_expand_cons] at hlen
  exact ⟨h.wellFormed t List.mem_cons_self, hpos, by omega⟩

lemma IsRow.eq_nil {ts : List Token} (h : IsRow 0 ts) : ts = [] := by
  cases ts with
  | nil => rfl
  | cons t ts => exact absurd rfl h.head.2.1

/-- **The reader's step**: what became of the row behind a token, with the token before it. -/
lemma Reads.after {stride need : ℕ} {t : Token} {rest : List UInt8} {e : Expansion}
    (h : Reads stride (need - t.size) rest e) (ht : t.WellFormed) (hneed : need ≠ 0)
    (hfits : t.size ≤ need) : Reads stride need (t.toBytes ++ rest) (e.after t) := by
  have hexpand : ∀ us : List Token, t.expand ++ us.flatMap Token.expand
      = (t :: us).flatMap Token.expand := fun us => List.flatMap_cons.symm
  have hbytes : ∀ us : List Token, t.toBytes ++ us.flatMap Token.toBytes
      = (t :: us).flatMap Token.toBytes := fun us => List.flatMap_cons.symm
  cases h with
  | complete hrow =>
      rw [Expansion.after, ← List.append_assoc, ← List.length_append, hexpand, hbytes]
      exact .complete (hrow.cons ht hneed hfits)
  | overrun hwf hshort hu hpast =>
      rw [Expansion.after, ← List.append_assoc, ← List.length_append, hexpand, hbytes]
      exact .overrun (List.forall_mem_cons.2 ⟨ht, hwf⟩)
        (by rw [length_flatMap_expand_cons]; omega) hu
        (by rw [length_flatMap_expand_cons]; omega)
  | truncated hwf hshort htail =>
      rw [Expansion.after, ← List.append_assoc, ← List.length_append, hexpand, hbytes]
      exact .truncated (List.forall_mem_cons.2 ⟨ht, hwf⟩)
        (by rw [length_flatMap_expand_cons]; omega) htail

/-- **The reader of a row**, case by case.  The induction is on the reader's own recursion: it
either stops at the first token or goes on behind it. -/
theorem reads_expandFrom (stride need : ℕ) (input : List UInt8) :
    Reads stride need input (expandFrom stride need input) := by
  induction need, input using expandFrom.induct with
  | case1 input =>
      rw [expandFrom, if_pos rfl]
      exact @Reads.complete stride 0 [] input ⟨by simp, by simp, rfl⟩
  | case2 need input hneed hread =>
      rw [expandFrom_of_read?_eq_none hneed hread]
      exact @Reads.truncated stride need [] input (by simp) (Nat.pos_of_ne_zero hneed) hread
  | case3 need input hneed t rest hread hpast =>
      obtain ⟨ht, rfl⟩ := Token.eq_of_read? hread
      rw [expandFrom_of_read? hneed hread, if_pos hpast]
      exact @Reads.overrun stride need [] t rest (by simp) (Nat.pos_of_ne_zero hneed) ht
        (by simpa using hpast)
  | case4 need input hneed t rest hread hfits ih =>
      rw [expandFrom_of_read? hneed hread, if_neg hfits]
      obtain ⟨ht, rfl⟩ := Token.eq_of_read? hread
      exact ih.after ht hneed (Nat.le_of_not_lt hfits)

/-- A row that expands without complaint is a row of tokens. -/
lemma exists_row_of_expandRow {stride : ℕ} {input : List UInt8}
    (h : (expandRow stride input).error? = none) :
    ∃ ts rest, IsRow stride ts ∧ input = ts.flatMap Token.toBytes ++ rest := by
  have hreads := reads_expandFrom stride stride input
  rw [← expandRow] at hreads
  cases hreads' : expandRow stride input
  rw [hreads'] at hreads h
  cases hreads with
  | complete hrow => exact ⟨_, _, hrow, rfl⟩
  | overrun => exact absurd h (by simp)
  | truncated => exact absurd h (by simp)

/-- **Rows that expand without complaint are rows of tokens**, as many as were asked for. -/
theorem exists_rows_of_expandRows {stride height : ℕ} {input : List UInt8}
    (h : (expandRows stride height input).error? = none) :
    ∃ (rows : List (List Token)) (rest : List UInt8), rows.length = height ∧
      (∀ ts ∈ rows, IsRow stride ts) ∧ input = rows.flatten.flatMap Token.toBytes ++ rest := by
  induction height generalizing input with
  | zero => exact ⟨[], input, rfl, by simp, rfl⟩
  | succ height ih =>
      rw [expandRows] at h
      split at h
      · next error herror => exact absurd h (by simp)
      · next hnone =>
          obtain ⟨ts, rest, hrow, rfl⟩ := exists_row_of_expandRow hnone
          rw [hrow.expandRow_append, List.drop_left] at h
          obtain ⟨rows, rest', hcount, hrows, rfl⟩ := ih h
          refine ⟨ts :: rows, rest', by rw [List.length_cons, hcount],
            List.forall_mem_cons.2 ⟨hrow, hrows⟩, ?_⟩
          rw [List.flatten_cons, List.flatMap_append, List.append_assoc]

/-! ## One way to divide -/

/-- The tokens of a row can be found from its front, whatever follows it. -/
lemma isRow_unique {stride : ℕ} {ts ts' : List Token} (h : IsRow stride ts)
    (h' : IsRow stride ts') {rest rest' : List UInt8}
    (hbytes : ts.flatMap Token.toBytes ++ rest = ts'.flatMap Token.toBytes ++ rest') :
    ts = ts' ∧ rest = rest' := by
  induction ts generalizing stride ts' with
  | nil =>
      have hzero : stride = 0 := h.length.symm
      subst hzero
      rw [h'.eq_nil] at hbytes ⊢
      exact ⟨rfl, hbytes⟩
  | cons t ts ih =>
      cases ts' with
      | nil => exact absurd h'.length.symm h.head.2.1
      | cons t' ts' =>
          rw [List.flatMap_cons, List.flatMap_cons, List.append_assoc, List.append_assoc] at hbytes
          obtain ⟨rfl, htail⟩ := Token.toBytes_append_inj h.head.1 h'.head.1 hbytes
          obtain ⟨rfl, hrest⟩ := ih h.tail h'.tail htail
          exact ⟨rfl, hrest⟩

/-- **There is one way to divide bytes into rows.** -/
theorem rows_unique {stride : ℕ} {rows rows' : List (List Token)}
    (h : ∀ ts ∈ rows, IsRow stride ts) (h' : ∀ ts ∈ rows', IsRow stride ts)
    (hcount : rows.length = rows'.length) {rest rest' : List UInt8}
    (hbytes : rows.flatten.flatMap Token.toBytes ++ rest
      = rows'.flatten.flatMap Token.toBytes ++ rest') :
    rows = rows' ∧ rest = rest' := by
  induction rows generalizing rows' with
  | nil =>
      rw [List.length_eq_zero_iff.1 hcount.symm] at hbytes ⊢
      exact ⟨rfl, hbytes⟩
  | cons ts rows ih =>
      cases rows' with
      | nil => exact absurd hcount (by simp)
      | cons ts' rows' =>
          obtain ⟨hrow, hrows⟩ := List.forall_mem_cons.1 h
          obtain ⟨hrow', hrows'⟩ := List.forall_mem_cons.1 h'
          rw [List.flatten_cons, List.flatten_cons, List.flatMap_append, List.flatMap_append,
            List.append_assoc, List.append_assoc] at hbytes
          obtain ⟨rfl, htail⟩ := isRow_unique hrow hrow' hbytes
          obtain ⟨rfl, hrest⟩ := ih hrows hrows' (Nat.succ.inj hcount) htail
          exact ⟨rfl, hrest⟩

/-! ## Rows that are cut short -/

/-- **A row that is cut short is found to be cut short.**  Each token before the cut is the one that
was there before, so none of them reaches past the row; the one at the cut is not read. -/
lemma IsRow.error?_expandFrom_take {need : ℕ} {ts : List Token} (h : IsRow need ts) (stride : ℕ)
    {k : ℕ} (hk : k < (ts.flatMap Token.toBytes).length) :
    (expandFrom stride need ((ts.flatMap Token.toBytes).take k)).error? = some .truncated := by
  induction ts generalizing need k with
  | nil => exact absurd hk (Nat.not_lt_zero k)
  | cons t ts ih =>
      obtain ⟨ht, hneed, hfits⟩ := h.head
      rw [List.flatMap_cons, List.length_append] at hk
      rw [List.flatMap_cons]
      -- the cut is in this token, or in one of those behind it
      rcases Nat.lt_or_ge k t.toBytes.length with hcut | hbehind
      · have hnone := Token.read?_take_toBytes ht hcut
        rw [List.take_append_of_le_length (Nat.le_of_lt hcut),
          expandFrom_of_read?_eq_none hneed hnone]
      · obtain ⟨j, rfl⟩ := Nat.exists_eq_add_of_le hbehind
        rw [List.take_length_add_append, expandFrom_toBytes_append ht hneed hfits]
        exact ih h.tail (by omega)

/-- **Rows that are cut short are found to be cut short**, in whichever of them the cut is. -/
theorem error?_expandRows_take {stride : ℕ} {rows : List (List Token)}
    (h : ∀ ts ∈ rows, IsRow stride ts) {k : ℕ}
    (hk : k < (rows.flatten.flatMap Token.toBytes).length) :
    (expandRows stride rows.length ((rows.flatten.flatMap Token.toBytes).take k)).error?
      = some .truncated := by
  induction rows generalizing k with
  | nil => exact absurd hk (Nat.not_lt_zero k)
  | cons ts rows ih =>
      obtain ⟨hrow, hrows⟩ := List.forall_mem_cons.1 h
      rw [List.flatten_cons, List.flatMap_append, List.length_append] at hk
      rw [List.flatten_cons, List.flatMap_append, List.length_cons, expandRows]
      rcases Nat.lt_or_ge k (ts.flatMap Token.toBytes).length with hcut | hbehind
      · have htruncated := hrow.error?_expandFrom_take stride hcut
        rw [← expandRow] at htruncated
        rw [List.take_append_of_le_length (Nat.le_of_lt hcut)]
        simp only [htruncated]
      · obtain ⟨j, rfl⟩ := Nat.exists_eq_add_of_le hbehind
        rw [List.take_length_add_append, hrow.expandRow_append, List.drop_left]
        exact ih hrows (by omega)

end WatchBitmap.PackBits
