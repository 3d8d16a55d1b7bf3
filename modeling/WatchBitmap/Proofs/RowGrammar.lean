import Mathlib.Tactic.Common
import WatchBitmap.Proofs.Amplification

/-!
# What a row is read from

The row reader has three answers, and which of them it gives can be told from its input without
reading: look at the complete tokens at the front.  Either some of them make up the row exactly, or
one of them reaches past its end, or the input ends before either.  These three do not overlap, so
each answer is given where its condition holds and nowhere else.

A token of which bytes are missing counts as missing altogether, also if it would reach past the row
were it all there.  A control byte that stands for nothing belongs to the token behind it, so it can
stand in front of a row's tokens and between them, but not behind the last.

* `Token.IsCut`, `Token.read?_eq_none_iff` — input that ends inside a token, or before it.
* `reads_iff` — what can become of a row, as a description that has one outcome for each input.
* `Moment.wellFounded_step` — **the reader's steps come to an end.**
* `Recognizes`, `recognizes_readRow` — **the three answers.**
-/

namespace WatchBitmap.PackBits

/-! ## Tokens of which bytes are missing -/

/-- The front of a token's bytes, without the last of them: none at all, or the control byte and
some of what should follow it. -/
def Token.IsCut (bytes : List UInt8) : Prop :=
  ∃ t : Token, t.WellFormed ∧ bytes <+: t.toBytes ∧ bytes.length < t.toBytes.length

lemma Token.isCut_nil : Token.IsCut [] :=
  ⟨.noOp, trivial, List.nil_prefix, Nat.one_pos⟩

/-- A control byte and fewer bytes than it announces are the front of a literal, whatever the
missing ones may be. -/
lemma Token.isCut_literal {control : UInt8} {rest : List UInt8} (hcontrol : control.toNat < 128)
    (hshort : rest.length < control.toNat + 1) : Token.IsCut (control :: rest) := by
  have hlength : (rest ++ List.replicate (control.toNat + 1 - rest.length) 0).length
      = control.toNat + 1 := by
    rw [List.length_append, List.length_replicate]
    omega
  refine ⟨.literal (rest ++ List.replicate (control.toNat + 1 - rest.length) 0), ?_, ?_, ?_⟩
  · exact ⟨by rw [hlength]; omega, by rw [hlength]; omega⟩
  · rw [toBytes, hlength, Nat.add_sub_cancel, UInt8.ofNat_toNat, ← List.cons_append]
    exact List.prefix_append _ _
  · rw [toBytes, List.length_cons, List.length_cons, hlength]
    omega

/-- The control byte of a run is its front. -/
lemma Token.isCut_run {control : UInt8} (hcontrol : 128 < control.toNat) :
    Token.IsCut [control] := by
  have hlt : control.toNat < 256 := control.toNat_lt
  refine ⟨.run (257 - control.toNat) 0, ⟨by omega, by omega⟩, ?_, by simp [toBytes]⟩
  rw [toBytes, show 257 - (257 - control.toNat) = control.toNat by omega, UInt8.ofNat_toNat]
  exact List.prefix_append [control] [0]

/-- **No token is read exactly from what is the front of one.** -/
theorem Token.read?_eq_none_iff (input : List UInt8) :
    Token.read? input = none ↔ Token.IsCut input := by
  constructor
  · intro hread
    cases input with
    | nil => exact isCut_nil
    | cons control rest =>
        simp only [read?] at hread
        split at hread
        · next hc =>
            have hc : control.toNat < 128 := by simpa [UInt8.lt_iff_toNat_lt] using hc
            split at hread
            · exact absurd hread (by simp)
            · next hshort =>
                refine isCut_literal hc ?_
                rw [List.length_take] at hshort
                omega
        · next hc =>
            have hc : ¬ control.toNat < 128 := by simpa [UInt8.lt_iff_toNat_lt] using hc
            split at hread
            · exact absurd hread (by simp)
            · next hne =>
                have hne : control.toNat ≠ 128 := fun he =>
                  hne (UInt8.toNat_inj.1 (by simpa using he))
                split at hread
                · exact isCut_run (by omega)
                · exact absurd hread (by simp)
  · rintro ⟨t, ht, hfront, hlt⟩
    rw [List.prefix_iff_eq_take.1 hfront]
    exact Token.read?_take_toBytes ht hlt

/-! ## One outcome for each input -/

/-- **Tokens that leave room in the row are passed over**, up to the place at which the reader gives
up.  The induction is on these tokens: in front of each the row is not complete, and each fits. -/
lemma expandFrom_of_short {stride need : ℕ} {ts : List Token} (hwf : ∀ t ∈ ts, t.WellFormed)
    (hshort : (ts.flatMap Token.expand).length < need)
    {rest : List UInt8} {error? : Option RowError}
    (hstop : expandFrom stride (need - (ts.flatMap Token.expand).length) rest = ⟨[], 0, error?⟩) :
    expandFrom stride need (ts.flatMap Token.toBytes ++ rest)
      = ⟨ts.flatMap Token.expand, (ts.flatMap Token.toBytes).length, error?⟩ := by
  induction ts generalizing need with
  | nil => exact hstop
  | cons t ts ih =>
      obtain ⟨ht, hts⟩ := List.forall_mem_cons.1 hwf
      rw [length_flatMap_expand_cons] at hshort hstop
      rw [← Nat.sub_sub] at hstop
      rw [List.flatMap_cons, List.append_assoc,
        expandFrom_toBytes_append ht (by omega) (by omega), ih hts (by omega) hstop,
        Expansion.after, List.flatMap_cons, List.length_append]

/-- **The description of a row's outcome has one outcome**, the reader's. -/
theorem reads_iff {stride need : ℕ} {input : List UInt8} {e : Expansion} :
    Reads stride need input e ↔ expandFrom stride need input = e := by
  constructor
  · intro hreads
    cases hreads with
    | complete hrow =>
        have hexpand := expandFrom_flatMap_toBytes hrow.wellFormed hrow.last stride
        rw [hrow.length] at hexpand
        exact hexpand _
    | overrun hwf hshort ht hpast =>
        refine expandFrom_of_short hwf hshort ?_
        rw [expandFrom_of_read? (by omega) (Token.read?_toBytes_append ht _), if_pos (by omega)]
    | truncated hwf hshort htail =>
        exact expandFrom_of_short hwf hshort (expandFrom_of_read?_eq_none (by omega) htail)
  · rintro rfl
    exact reads_expandFrom stride need input

/-! ## The end of the steps -/

/-- **The reader's steps come to an end.**  A token takes at least its control byte from the input,
also if the row does not get longer by it; a row that is complete is one less to come. -/
theorem Moment.wellFounded_step (stride : ℕ) :
    WellFounded fun later earlier : Moment => Moment.Step stride earlier later := by
  refine Subrelation.wf ?_ (measure fun m : Moment => m.rowsLeft + m.input.length).wf
  intro later earlier hstep
  cases hstep with
  | token hneed hread hfits =>
      have hshorter := Token.length_lt_of_read? hread
      exact Nat.add_lt_add_left hshorter _
  | row => exact Nat.add_lt_add_right (Nat.lt_succ_self _) _

/-- What the reader's steps through one row come to. -/
lemma exists_stops_readRow (stride : ℕ) (input out : List UInt8) :
    ∃ m error?, Moment.Reaches stride (.start stride 1 input) m ∧ m.Stops stride error? ∧
      readRow out stride input
        = (out ++ m.bytes, match error? with | none => .ok m.used | some error => .error error) := by
  obtain ⟨m, hrun, hstops, hbytes, hused, -⟩ := exists_reaches_expandRows stride 1 input 0 0 []
  refine ⟨m, _, hrun, hstops, ?_⟩
  rw [hbytes, hused, readRow]
  cases herror : (expandRow stride input).error? <;> simp [expandRows, herror]

/-! ## The three answers -/

/-- **Which bytes the row reader takes for a row**, and what it says of the others.  The tokens
that are mentioned are complete ones at the front of the input. -/
structure Recognizes (stride : ℕ) (input out : List UInt8) : Prop where
  /-- No run of the reader's steps goes on forever. -/
  terminates : Acc (fun later earlier => Moment.Step stride earlier later)
    (Moment.start stride 1 input)
  /-- One of them ends with the reader's answer. -/
  stops : ∃ m error?, Moment.Reaches stride (.start stride 1 input) m ∧ m.Stops stride error? ∧
    readRow out stride input
      = (out ++ m.bytes, match error? with | none => .ok m.used | some error => .error error)
  /-- The first `n` bytes are a row if they are tokens that stand for as many bytes as it has.  They
  end with a token that stands for something; only a row of no bytes is read from none. -/
  complete : ∀ (n : ℕ) (after : List UInt8), readRow out stride input = (after, .ok n) ↔
    ∃ ts : List Token, n ≤ input.length ∧ input.take n = ts.flatMap Token.toBytes ∧
      (∀ t ∈ ts, t.WellFormed) ∧ (ts.flatMap Token.expand).length = stride ∧
      (stride = 0 ∧ n = 0 ∨ ∃ t, ts.getLast? = some t ∧ t ≠ .noOp) ∧
      after = out ++ ts.flatMap Token.expand
  /-- A row is overrun by a token that is all there and reaches past the end. -/
  overrun : ∀ after : List UInt8, readRow out stride input = (after, .error (.overrun stride)) ↔
    ∃ (ts : List Token) (t : Token) (rest : List UInt8),
      input = ts.flatMap Token.toBytes ++ (t.toBytes ++ rest) ∧ (∀ u ∈ ts, u.WellFormed) ∧
      t.WellFormed ∧ (ts.flatMap Token.expand).length < stride ∧
      stride < (ts.flatMap Token.expand).length + t.size ∧
      after = out ++ ts.flatMap Token.expand
  /-- A row is truncated if the tokens do not make it up and behind them there is nothing, or not
  all of one more. -/
  truncated : ∀ after : List UInt8, readRow out stride input = (after, .error .truncated) ↔
    ∃ (ts : List Token) (tail : List UInt8),
      input = ts.flatMap Token.toBytes ++ tail ∧ (∀ u ∈ ts, u.WellFormed) ∧ Token.IsCut tail ∧
      (ts.flatMap Token.expand).length < stride ∧ after = out ++ ts.flatMap Token.expand
  /-- There is no fourth answer. -/
  answers : ∃ after, (∃ n, readRow out stride input = (after, .ok n)) ∨
    readRow out stride input = (after, .error (.overrun stride)) ∨
    readRow out stride input = (after, .error .truncated)

section Answers

variable {stride : ℕ} {input out after : List UInt8}

/-- What an answer of the row reader says of the expansion. -/
lemma readRow_eq_iff {answer : Except RowError ℕ} :
    readRow out stride input = (after, answer) ↔
      ∃ e : Expansion, Reads stride stride input e ∧ after = out ++ e.bytes ∧
        answer = match e.error? with | none => .ok e.used | some error => .error error := by
  rw [readRow, Prod.mk.injEq]
  constructor
  · rintro ⟨rfl, rfl⟩
    exact ⟨_, reads_expandFrom stride stride input, rfl, rfl⟩
  · rintro ⟨e, hreads, rfl, rfl⟩
    obtain rfl := reads_iff.1 hreads
    exact ⟨rfl, rfl⟩

/-- The tokens of a row, told by the last of them. -/
lemma isRow_iff {ts : List Token} :
    IsRow stride ts ↔ (∀ t ∈ ts, t.WellFormed) ∧ (ts.flatMap Token.expand).length = stride ∧
      (stride = 0 ∧ ts = [] ∨ ∃ t, ts.getLast? = some t ∧ t ≠ .noOp) := by
  constructor
  · intro hrow
    refine ⟨hrow.wellFormed, hrow.length, ?_⟩
    cases hlast : ts.getLast? with
    | none =>
        obtain rfl := List.getLast?_eq_none_iff.1 hlast
        exact .inl ⟨hrow.length.symm, rfl⟩
    | some t => exact .inr ⟨t, rfl, fun hnoOp => hrow.last (by rw [hlast, hnoOp])⟩
  · rintro ⟨hwf, hlength, ⟨-, rfl⟩ | ⟨t, hlast, ht⟩⟩
    · exact ⟨hwf, by simp, hlength⟩
    · refine ⟨hwf, fun hnoOp => ht ?_, hlength⟩
      exact Option.some.inj (hlast.symm.trans hnoOp)

/-- No bytes are taken exactly if there are no tokens, for each of these has a control byte. -/
lemma eq_zero_iff_of_take_eq {n : ℕ} {ts : List Token} (hn : n ≤ input.length)
    (htake : input.take n = ts.flatMap Token.toBytes) : n = 0 ↔ ts = [] := by
  have hlength := congrArg List.length htake
  rw [List.length_take, Nat.min_eq_left hn] at hlength
  rw [hlength, List.length_eq_zero_iff]
  cases ts with
  | nil => simp
  | cons t ts => cases t <;> simp [Token.toBytes]

/-- A row that is read consists of the tokens in the bytes that it took. -/
lemma readRow_eq_ok_iff {n : ℕ} :
    readRow out stride input = (after, .ok n) ↔
      ∃ ts : List Token, n ≤ input.length ∧ input.take n = ts.flatMap Token.toBytes ∧
        IsRow stride ts ∧ after = out ++ ts.flatMap Token.expand := by
  rw [readRow_eq_iff]
  constructor
  · rintro ⟨e, hreads, rfl, hanswer⟩
    cases hreads with
    | @complete ts rest hrow =>
        obtain rfl := Except.ok.inj hanswer
        refine ⟨ts, ?_, List.take_left, hrow, rfl⟩
        rw [List.length_append]
        exact Nat.le_add_right _ _
    | overrun => exact absurd hanswer (by simp)
    | truncated => exact absurd hanswer (by simp)
  · rintro ⟨ts, hn, htake, hrow, rfl⟩
    have hcomplete := @Reads.complete stride stride ts (input.drop n) hrow
    rw [← htake, List.take_append_drop, List.length_take, Nat.min_eq_left hn] at hcomplete
    exact ⟨_, hcomplete, rfl, rfl⟩

/-- A row is overrun if one of the tokens in its input reaches past the end. -/
lemma readRow_eq_overrun_iff :
    readRow out stride input = (after, .error (.overrun stride)) ↔
      ∃ (ts : List Token) (t : Token) (rest : List UInt8),
        input = ts.flatMap Token.toBytes ++ (t.toBytes ++ rest) ∧ (∀ u ∈ ts, u.WellFormed) ∧
        t.WellFormed ∧ (ts.flatMap Token.expand).length < stride ∧
        stride < (ts.flatMap Token.expand).length + t.size ∧
        after = out ++ ts.flatMap Token.expand := by
  rw [readRow_eq_iff]
  constructor
  · rintro ⟨e, hreads, rfl, hanswer⟩
    cases hreads with
    | complete => exact absurd hanswer (by simp)
    | overrun hwf hshort ht hpast => exact ⟨_, _, _, rfl, hwf, ht, hshort, hpast, rfl⟩
    | truncated => exact absurd hanswer (by simp)
  · rintro ⟨ts, t, rest, rfl, hwf, ht, hshort, hpast, rfl⟩
    exact ⟨_, .overrun hwf hshort ht hpast, rfl, rfl⟩

/-- A row is truncated if its input ends before it is complete, inside a token or behind one. -/
lemma readRow_eq_truncated_iff :
    readRow out stride input = (after, .error .truncated) ↔
      ∃ (ts : List Token) (tail : List UInt8),
        input = ts.flatMap Token.toBytes ++ tail ∧ (∀ u ∈ ts, u.WellFormed) ∧ Token.IsCut tail ∧
        (ts.flatMap Token.expand).length < stride ∧ after = out ++ ts.flatMap Token.expand := by
  rw [readRow_eq_iff]
  constructor
  · rintro ⟨e, hreads, rfl, hanswer⟩
    cases hreads with
    | complete => exact absurd hanswer (by simp)
    | overrun => exact absurd hanswer (by simp)
    | truncated hwf hshort htail =>
        exact ⟨_, _, rfl, hwf, (Token.read?_eq_none_iff _).1 htail, hshort, rfl⟩
  · rintro ⟨ts, tail, rfl, hwf, htail, hshort, rfl⟩
    exact ⟨_, .truncated hwf hshort ((Token.read?_eq_none_iff tail).2 htail), rfl, rfl⟩

variable (stride input out) in
/-- The row reader always has one of its three answers. -/
lemma readRow_cases :
    ∃ after, (∃ n, readRow out stride input = (after, .ok n)) ∨
      readRow out stride input = (after, .error (.overrun stride)) ∨
      readRow out stride input = (after, .error .truncated) := by
  have hreads := reads_expandFrom stride stride input
  refine ⟨out ++ (expandFrom stride stride input).bytes, ?_⟩
  generalize expandFrom stride stride input = e at hreads ⊢
  cases hreads with
  | complete hrow => exact .inl ⟨_, readRow_eq_iff.2 ⟨_, .complete hrow, rfl, rfl⟩⟩
  | overrun hwf hshort ht hpast =>
      exact .inr (.inl (readRow_eq_iff.2 ⟨_, .overrun hwf hshort ht hpast, rfl, rfl⟩))
  | truncated hwf hshort htail =>
      exact .inr (.inr (readRow_eq_iff.2 ⟨_, .truncated hwf hshort htail, rfl, rfl⟩))

end Answers

/-- **The row reader recognizes rows of tokens**, and tells what is wrong with what is none.  What
was there before is kept in each case, and behind it stands what the leading tokens stand for. -/
theorem recognizes_readRow (stride : ℕ) (input out : List UInt8) :
    Recognizes stride input out where
  terminates := (Moment.wellFounded_step stride).apply _
  stops := exists_stops_readRow stride input out
  complete := by
    intro n after
    rw [readRow_eq_ok_iff]
    refine exists_congr fun ts => ?_
    constructor
    · rintro ⟨hn, htake, hrow, rfl⟩
      obtain ⟨hwf, hlength, hlast⟩ := isRow_iff.1 hrow
      rw [← eq_zero_iff_of_take_eq hn htake] at hlast
      exact ⟨hn, htake, hwf, hlength, hlast, rfl⟩
    · rintro ⟨hn, htake, hwf, hlength, hlast, rfl⟩
      rw [eq_zero_iff_of_take_eq hn htake] at hlast
      exact ⟨hn, htake, isRow_iff.2 ⟨hwf, hlength, hlast⟩, rfl⟩
  overrun _ := readRow_eq_overrun_iff
  truncated _ := readRow_eq_truncated_iff
  answers := readRow_cases stride input out

/-- The last token would reach past the row, but a byte of it is missing. -/
example : readRow [7] 2 [0, 1, 128, 2, 5, 5] = ([7, 1], .error .truncated) := by cbv

end WatchBitmap.PackBits
