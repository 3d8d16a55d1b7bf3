import Mathlib.Algebra.Order.Field.Power
import Mathlib.Algebra.Order.Ring.Abs
import Mathlib.Data.Rat.Cast.Order
import Mathlib.Tactic.Linarith
import Mathlib.Tactic.NormNum
import Mathlib.Tactic.Ring
import WatchBitmap.Significand

/-!
# Rounding to the nearest number with so many significant bits

Which number a result is rounded to can be said without a procedure: it has so many significant
bits, no other such number is nearer, and if another is as near, its last bit is zero
(`Rounds`).  There is never more than one number of which that is true (`Rounds.unique`), a larger
result is not rounded to a smaller number (`Rounds.mono`), and the scale does not matter
(`Rounds.scale`).

* `Fits` — a number with so many significant bits.
* `rounds_down`, `rounds_up` — what lies between two neighbours is rounded to the nearer one.
* `rounds_round` — **`round` is this rounding.**  `round_mono` and `round_near` say what follows
  for natural numbers: it keeps the order, and it is off by half a unit at most.
-/

namespace WatchBitmap.Significand

/-! ## Numbers with so many significant bits -/

/-- A number with at most `bits` significant bits, whatever their weight. -/
def Fits (bits : ℕ) (x : ℚ) : Prop :=
  ∃ (k : ℕ) (e : ℤ), k < 2 ^ bits ∧ x = k * 2 ^ e

variable {bits : ℕ} {x y z : ℚ}

lemma Fits.scale (h : Fits bits x) (j : ℤ) : Fits bits (x * 2 ^ j) := by
  obtain ⟨k, e, hk, rfl⟩ := h
  refine ⟨k, e + j, hk, ?_⟩
  rw [zpow_add₀ two_ne_zero, mul_assoc]

/-- A carry out of the uppermost bit leaves a power of two. -/
lemma fits_of_le (hbits : 0 < bits) {k : ℕ} (hk : k ≤ 2 ^ bits) (e : ℤ) :
    Fits bits (k * 2 ^ e) := by
  rcases hk.lt_or_eq with hlt | rfl
  · exact ⟨k, e, hlt, rfl⟩
  · refine ⟨1, bits + e, Nat.one_lt_two_pow hbits.ne', ?_⟩
    rw [zpow_add₀ two_ne_zero, zpow_natCast, Nat.cast_pow, Nat.cast_ofNat, Nat.cast_one, one_mul]

/-- The last bit of an even number can be spared. -/
lemma fits_of_even (hbits : 1 < bits) {k : ℕ} (heven : Even k) (hk : k ≤ 2 ^ bits) (e : ℤ) :
    Fits (bits - 1) (k * 2 ^ e) := by
  obtain ⟨j, rfl⟩ := heven
  have hj : j ≤ 2 ^ (bits - 1) := by
    have hpow := Nat.two_pow_pred_mul_two (by omega : 0 < bits)
    omega
  have hhalf : ((j + j : ℕ) : ℚ) * 2 ^ e = j * 2 ^ (e + 1) := by
    rw [zpow_add_one₀ two_ne_zero, Nat.cast_add]
    ring
  rw [hhalf]
  exact fits_of_le (by omega) hj (e + 1)

/-- A multiple of a unit is a multiple of each smaller one. -/
lemma exists_mul_unit {s e : ℤ} (hle : s ≤ e) (k : ℕ) : ∃ m : ℕ, (k : ℚ) * 2 ^ e = m * 2 ^ s := by
  obtain ⟨j, rfl⟩ := Int.le.dest hle
  refine ⟨k * 2 ^ j, ?_⟩
  rw [zpow_add₀ two_ne_zero, zpow_natCast]
  push_cast
  ring

/-- **Neighbours.**  Numbers whose uppermost bit is not lower than that of `c` are multiples of the
same unit, so none lies between `c` units and `c + 1`; all others lie below. -/
lemma Fits.le_or_le (hz : Fits bits z) {c : ℕ} (hc : 2 ^ bits ≤ 2 * c) (s : ℤ) :
    z ≤ c * 2 ^ s ∨ (c + 1) * 2 ^ s ≤ z := by
  obtain ⟨k, e, hk, rfl⟩ := hz
  rcases lt_or_ge e s with hlt | hge
  · left
    have hk' : (k : ℚ) ≤ 2 * c := by exact_mod_cast hk.le.trans hc
    calc (k : ℚ) * 2 ^ e ≤ k * 2 ^ (s - 1) := by
          gcongr
          · norm_num
          · omega
      _ ≤ 2 * c * 2 ^ (s - 1) := by gcongr
      _ = c * 2 ^ s := by
          rw [zpow_sub_one₀ two_ne_zero]
          ring
  · obtain ⟨m, hm⟩ := exists_mul_unit hge k
    rw [hm]
    rcases Nat.lt_or_ge c m with hlt | hge
    · right
      gcongr
      exact_mod_cast hlt
    · left
      gcongr

/-! ## The nearest number -/

/-- **Nearest, ties to even**, as a property of `x` and the number `y` that it is rounded to. -/
structure Rounds (bits : ℕ) (x y : ℚ) : Prop where
  fits : Fits bits y
  nearest : ∀ z, Fits bits z → |x - y| ≤ |x - z|
  /-- If another number is as near, the last bit of `y` is zero. -/
  even : ∀ z, Fits bits z → z ≠ y → |x - y| = |x - z| → Fits (bits - 1) y

lemma rounds_self (hx : Fits bits x) : Rounds bits x x where
  fits := hx
  nearest := by simp
  even := by
    intro z _ hne htie
    rw [sub_self, abs_zero, eq_comm, abs_eq_zero, sub_eq_zero] at htie
    exact absurd htie.symm hne

lemma Rounds.scale (h : Rounds bits x y) (j : ℤ) : Rounds bits (x * 2 ^ j) (y * 2 ^ j) := by
  have hpos : (0 : ℚ) < 2 ^ j := zpow_pos two_pos j
  have hforth (w : ℚ) : w * 2 ^ (-j) * 2 ^ j = w := by
    rw [mul_assoc, ← zpow_add₀ two_ne_zero, neg_add_cancel, zpow_zero, mul_one]
  -- each number is some other one, scaled
  have hdist (w : ℚ) : |x * 2 ^ j - w * 2 ^ j| = |x - w| * 2 ^ j := by
    rw [← sub_mul, abs_mul, abs_of_pos hpos]
  refine ⟨h.fits.scale j, ?_, ?_⟩
  · intro z hz
    rw [← hforth z, hdist, hdist]
    exact mul_le_mul_of_nonneg_right (h.nearest _ (hz.scale (-j))) hpos.le
  · intro z hz hne htie
    rw [← hforth z, hdist, hdist] at htie
    refine (h.even _ (hz.scale (-j)) ?_ (mul_right_cancel₀ hpos.ne' htie)).scale j
    rintro rfl
    exact hne (hforth z).symm

section Between

variable {c : ℕ} {s : ℤ}

/-- **What lies in the lower half** between two neighbours is rounded down; the middle is so if the
lower one is even. -/
lemma rounds_down (hbits : 1 < bits) (hlow : 2 ^ bits ≤ 2 * c) (hhigh : c < 2 ^ bits)
    (hx : c * 2 ^ s ≤ x) (hnear : 2 * x ≤ (2 * c + 1) * 2 ^ s)
    (htie : 2 * x = (2 * c + 1) * 2 ^ s → Even c) : Rounds bits x (c * 2 ^ s) where
  fits := fits_of_le (by omega) hhigh.le s
  nearest := by
    intro z hz
    rw [abs_of_nonneg (sub_nonneg.2 hx)]
    rcases hz.le_or_le hlow s with hbelow | habove
    · rw [abs_of_nonneg (by linarith)]
      linarith
    · rw [abs_sub_comm, abs_of_nonneg (by linarith)]
      linarith
  even := by
    intro z hz hne heq
    rw [abs_of_nonneg (sub_nonneg.2 hx)] at heq
    rcases hz.le_or_le hlow s with hbelow | habove
    · rw [abs_of_nonneg (by linarith)] at heq
      exact absurd (by linarith) hne
    · rw [abs_sub_comm, abs_of_nonneg (by linarith)] at heq
      exact fits_of_even hbits (htie (by linarith)) hhigh.le s

/-- **What lies in the upper half** is rounded up; the middle is so if the upper one is even. -/
lemma rounds_up (hbits : 1 < bits) (hlow : 2 ^ bits ≤ 2 * c) (hhigh : c < 2 ^ bits)
    (hx : x ≤ (c + 1) * 2 ^ s) (hnear : (2 * c + 1) * 2 ^ s ≤ 2 * x)
    (htie : 2 * x = (2 * c + 1) * 2 ^ s → Even (c + 1)) :
    Rounds bits x ((c + 1) * 2 ^ s) where
  fits := by
    have hfits := fits_of_le (by omega) (Nat.succ_le_of_lt hhigh) s
    rwa [Nat.cast_succ] at hfits
  nearest := by
    intro z hz
    rw [abs_sub_comm, abs_of_nonneg (sub_nonneg.2 hx)]
    rcases hz.le_or_le hlow s with hbelow | habove
    · rw [abs_of_nonneg (by linarith)]
      linarith
    · rw [abs_sub_comm, abs_of_nonneg (by linarith)]
      linarith
  even := by
    intro z hz hne heq
    rw [abs_sub_comm, abs_of_nonneg (sub_nonneg.2 hx)] at heq
    rcases hz.le_or_le hlow s with hbelow | habove
    · rw [abs_of_nonneg (by linarith)] at heq
      have hfits := fits_of_even hbits (htie (by linarith)) (Nat.succ_le_of_lt hhigh) s
      rwa [Nat.cast_succ] at hfits
    · rw [abs_sub_comm x z, abs_of_nonneg (by linarith)] at heq
      exact absurd (by linarith) hne

end Between

/-! ## One number, and the order of numbers -/

/-- What is nearer to the larger of two numbers is not below the middle, and what is nearer to the
smaller one is not above it. -/
lemma add_le_two_mul (hnear : |x - y| ≤ |x - z|) (hzy : z < y) : y + z ≤ 2 * x := by
  have hdist := (neg_le_abs (x - y)).trans hnear
  rcases le_total z x with hle | hle
  · rw [abs_of_nonneg (sub_nonneg.2 hle)] at hdist
    linarith
  · rw [abs_of_nonpos (sub_nonpos.2 hle)] at hdist
    linarith

lemma two_mul_le_add (hnear : |x - y| ≤ |x - z|) (hyz : y < z) : 2 * x ≤ y + z := by
  have hdist := (le_abs_self (x - y)).trans hnear
  rcases le_total z x with hle | hle
  · rw [abs_of_nonneg (sub_nonneg.2 hle)] at hdist
    linarith
  · rw [abs_of_nonpos (sub_nonpos.2 hle)] at hdist
    linarith

/-- **Rounding keeps the order.**  The middle of two numbers in the wrong order would have to lie
below the smaller result and above the larger one. -/
theorem Rounds.mono {x' y' : ℚ} (h : Rounds bits x y) (h' : Rounds bits x' y') (hx : x < x') :
    y ≤ y' := by
  by_contra hlt
  rw [not_le] at hlt
  have hupper := add_le_two_mul (h.nearest y' h'.fits) hlt
  have hlower := two_mul_le_add (h'.nearest y h.fits) hlt
  linarith

/-- Between two numbers with a bit to spare there is one that needs the bit. -/
lemma exists_fits_between (hbits : 0 < bits) (hx : Fits (bits - 1) x) (hy : Fits (bits - 1) y)
    (hlt : x < y) : ∃ z, Fits bits z ∧ x < z ∧ z < y := by
  obtain ⟨k, e, hk, rfl⟩ := hx
  obtain ⟨k', e', hk', rfl⟩ := hy
  -- both are counted in the smaller of their units
  obtain ⟨m, m', s, hm, hm', hspare⟩ : ∃ (m m' : ℕ) (s : ℤ), (k : ℚ) * 2 ^ e = m * 2 ^ s ∧
      (k' : ℚ) * 2 ^ e' = m' * 2 ^ s ∧ (m < 2 ^ (bits - 1) ∨ m' < 2 ^ (bits - 1)) := by
    rcases le_total e e' with hle | hle
    · obtain ⟨m', hm'⟩ := exists_mul_unit hle k'
      exact ⟨k, m', e, rfl, hm', .inl hk⟩
    · obtain ⟨m, hm⟩ := exists_mul_unit hle k
      exact ⟨m, k', e', hm, rfl, .inr hk'⟩
  rw [hm, hm'] at hlt ⊢
  have hmm : m < m' := by exact_mod_cast lt_of_mul_lt_mul_right hlt (zpow_nonneg zero_le_two s)
  have hpow := Nat.two_pow_pred_mul_two hbits
  have hhalf (j : ℕ) : (j : ℚ) * 2 ^ s = (2 * j : ℕ) * 2 ^ (s - 1) := by
    rw [zpow_sub_one₀ two_ne_zero]
    push_cast
    ring
  have hpos : (0 : ℚ) < 2 ^ (s - 1) := zpow_pos two_pos _
  refine ⟨(2 * m + 1 : ℕ) * 2 ^ (s - 1), ⟨_, _, by omega, rfl⟩, ?_, ?_⟩
  · rw [hhalf]
    exact mul_lt_mul_of_pos_right (Nat.cast_lt.2 (by omega)) hpos
  · rw [hhalf]
    exact mul_lt_mul_of_pos_right (Nat.cast_lt.2 (by omega)) hpos

/-- **There is one number to round to.**  Of two, both would have a bit to spare, and what lies
between them would be nearer. -/
theorem Rounds.unique (hbits : 0 < bits) (h : Rounds bits x y) (h' : Rounds bits x z) : y = z := by
  have hnot {y z : ℚ} (h : Rounds bits x y) (h' : Rounds bits x z) : ¬ y < z := by
    intro hlt
    have htie := le_antisymm (h.nearest z h'.fits) (h'.nearest y h.fits)
    obtain ⟨w, hw, hyw, hwz⟩ := exists_fits_between hbits (h.even z h'.fits hlt.ne' htie)
      (h'.even y h.fits hlt.ne htie.symm) hlt
    have hlower := two_mul_le_add (h.nearest w hw) hyw
    have hupper := add_le_two_mul (h'.nearest y h.fits) hlt
    linarith
  exact le_antisymm (not_lt.1 (hnot h' h)) (not_lt.1 (hnot h h'))

/-! ## Rounding natural numbers -/

variable {m n : ℕ}

lemma unit_eq (bits n : ℕ) : unit bits n = 2 ^ (n.log2 + 1 - bits) := Nat.one_shiftLeft _

lemma unit_pos (bits n : ℕ) : 0 < unit bits n := by
  rw [unit_eq]
  exact Nat.two_pow_pos _

lemma unit_le (hbits : 0 < bits) {k : ℕ} (hn : n < 2 ^ (bits + k)) : unit bits n ≤ 2 ^ k := by
  have hlog : n.log2 < bits + k := by
    rcases eq_or_ne n 0 with rfl | hne
    · exact Nat.add_pos_left hbits k
    · exact (Nat.log2_lt hne).2 hn
  rw [unit_eq]
  exact Nat.pow_le_pow_right Nat.two_pos (by omega)

/-- A number that is not short has a quotient of just so many bits by its unit. -/
lemma div_unit_bounds (hbits : 0 < bits) (hn : 2 ^ bits ≤ n) :
    2 ^ bits ≤ 2 * (n / unit bits n) ∧ n / unit bits n < 2 ^ bits := by
  have hne : n ≠ 0 := ((Nat.two_pow_pos bits).trans_le hn).ne'
  have hlog : bits ≤ n.log2 := (Nat.le_log2 hne).2 hn
  have hfirst : 2 ^ (bits - 1) * unit bits n = 2 ^ n.log2 := by
    rw [unit_eq, ← Nat.pow_add]
    congr 1
    omega
  have hlast : unit bits n * 2 ^ bits = 2 ^ (n.log2 + 1) := by
    rw [unit_eq, ← Nat.pow_add]
    congr 1
    omega
  constructor
  · rw [← Nat.two_pow_pred_mul_two hbits, Nat.mul_comm]
    refine Nat.mul_le_mul_left 2 ((Nat.le_div_iff_mul_le (unit_pos bits n)).2 ?_)
    rw [hfirst]
    exact Nat.log2_self_le hne
  · refine Nat.div_lt_of_lt_mul ?_
    rw [hlast]
    exact Nat.lt_log2_self

/-- **What `round` does**: it takes the lower of two neighbours in the lower half between them and
the upper one in the upper half, and in the middle the even one. -/
lemma round_cases (bits n : ℕ) :
    (round bits n = n / unit bits n * unit bits n ∧
      2 * n ≤ (2 * (n / unit bits n) + 1) * unit bits n ∧
      (2 * n = (2 * (n / unit bits n) + 1) * unit bits n → Even (n / unit bits n))) ∨
    (round bits n = (n / unit bits n + 1) * unit bits n ∧
      (2 * (n / unit bits n) + 1) * unit bits n ≤ 2 * n ∧
      (2 * n = (2 * (n / unit bits n) + 1) * unit bits n → Even (n / unit bits n + 1))) := by
  have hn := Nat.div_add_mod n (unit bits n)
  have hmiddle : (2 * (n / unit bits n) + 1) * unit bits n
      = 2 * (unit bits n * (n / unit bits n)) + unit bits n := by
    ring
  rw [round, hmiddle, Nat.even_iff, Nat.even_iff]
  split_ifs with hup
  · exact .inr ⟨Nat.mul_comm _ _, by omega, by omega⟩
  · exact .inl ⟨Nat.mul_comm _ _, by omega, by omega⟩

/-- **`round` rounds to the nearest number**, ties to even. -/
theorem rounds_round (hbits : 1 < bits) (n : ℕ) : Rounds bits n (round bits n) := by
  rcases Nat.lt_or_ge n (2 ^ bits) with hshort | hlong
  · rw [round_of_lt (by rwa [Nat.one_shiftLeft])]
    exact rounds_self ⟨n, 0, hshort, by simp⟩
  obtain ⟨hlow, hhigh⟩ := div_unit_bounds (by omega) hlong
  have hscale : (2 : ℚ) ^ ((n.log2 + 1 - bits : ℕ) : ℤ) = unit bits n := by
    rw [unit_eq, zpow_natCast, Nat.cast_pow, Nat.cast_ofNat]
  rcases round_cases bits n with ⟨hround, hnear, htie⟩ | ⟨hround, hnear, htie⟩
  · rw [hround, Nat.cast_mul, ← hscale]
    refine rounds_down hbits hlow hhigh ?_ ?_ ?_ <;> rw [hscale]
    · exact_mod_cast Nat.div_mul_le_self n (unit bits n)
    · exact_mod_cast hnear
    · exact_mod_cast htie
  · rw [hround, Nat.cast_mul, Nat.cast_succ, ← hscale]
    refine rounds_up hbits hlow hhigh ?_ ?_ ?_ <;> rw [hscale]
    · exact_mod_cast (Nat.lt_mul_of_div_lt (Nat.lt_succ_self _) (unit_pos bits n)).le
    · exact_mod_cast hnear
    · exact_mod_cast htie

/-- **Rounding natural numbers keeps their order.** -/
theorem round_mono (hbits : 1 < bits) (hmn : m ≤ n) : round bits m ≤ round bits n := by
  rcases hmn.lt_or_eq with hlt | rfl
  · exact_mod_cast (rounds_round hbits m).mono (rounds_round hbits n) (Nat.cast_lt.2 hlt)
  · exact le_rfl

/-- **Rounding is off by half a unit at most.** -/
theorem round_near (hbits : 0 < bits) {k : ℕ} (hn : n < 2 ^ (bits + k)) :
    2 * n ≤ 2 * round bits n + 2 ^ k ∧ 2 * round bits n ≤ 2 * n + 2 ^ k := by
  have hunit := unit_le hbits hn
  have hle := Nat.div_mul_le_self n (unit bits n)
  have hlt : n < n / unit bits n * unit bits n + unit bits n := by
    rw [← Nat.add_one_mul]
    exact Nat.lt_mul_of_div_lt (Nat.lt_succ_self _) (unit_pos bits n)
  have hmiddle : (2 * (n / unit bits n) + 1) * unit bits n
      = 2 * (n / unit bits n * unit bits n) + unit bits n := by
    ring
  rcases round_cases bits n with ⟨hround, hnear, -⟩ | ⟨hround, hnear, -⟩
  · rw [hmiddle] at hnear
    omega
  · rw [hmiddle] at hnear
    rw [Nat.add_one_mul] at hround
    omega

end WatchBitmap.Significand
