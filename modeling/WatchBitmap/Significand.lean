/-!
# Rounding to a number of significant bits

A binary floating-point operation computes the exact result and then keeps only so many of its
leading bits.  On natural numbers that is one function, whatever the unit they count.

* `Significand.round` — the nearest number with at most `bits` significant bits, a tie going to
  the even neighbour.
* `Significand.round_of_lt` — a number that is short enough already is kept.
-/

namespace WatchBitmap.Significand

/-- The weight of the last bit that is kept when `n` is written with `bits` significant bits. -/
def unit (bits n : Nat) : Nat :=
  1 <<< (n.log2 + 1 - bits)

/-- **Nearest, ties to even.**  `n` is `q` units and a rest; the rest decides between `q` and
`q + 1`, and a rest of exactly half a unit goes to the even one of the two. -/
def round (bits n : Nat) : Nat :=
  let q := n / unit bits n
  let rest := n % unit bits n
  let up := unit bits n < 2 * rest ∨ unit bits n = 2 * rest ∧ q % 2 = 1
  unit bits n * (if up then q + 1 else q)

/-- A number below `2 ^ bits` has no bits to lose. -/
theorem round_of_lt {bits n : Nat} (h : n < 1 <<< bits) : round bits n = n := by
  rcases Nat.eq_zero_or_pos n with rfl | hn
  · simp [round]
  · have hlog : n.log2 < bits := (Nat.log2_lt (Nat.ne_of_gt hn)).2 (by rwa [Nat.one_shiftLeft] at h)
    have hunit : unit bits n = 1 := by
      rw [unit, show n.log2 + 1 - bits = 0 by omega, Nat.shiftLeft_zero]
    simp [round, hunit, Nat.mod_one]

end WatchBitmap.Significand
