import Mathlib.Algebra.Order.Floor.Semifield
import Mathlib.Data.Rat.Floor
import WatchBitmap.Color
import WatchBitmap.Proofs.Rounding

/-!
# What rounding does to the luminance

The luminance is a weighted sum of three channels.  Its weights are not binary fractions, so they
are rounded, and so is every product and every sum on the way.  All this can be told with rational
numbers (`SumsTo`), and multipliers of `2 ^ (-27)` tell it exactly (`sumsTo_iff`).

* `brightness_near` — the five roundings and the rounded weights together do not move the sum by
  more than `3705 * 2 ^ (-27)`.  The exact sum is a whole number of five-thousandths, and those are
  much further apart.
* `RoundsExactSum`, `roundsExactSum_luminance` — **the luminance is the exact sum, rounded**.  Only
  where that lies in the middle of two channel values the errors decide between them.
* `brightness_mono` — each rounding keeps the order of what it rounds, in the middle too.
* `luminance_le_and_isLit_of_le` — **a brighter pixel is not turned off**.
-/

namespace WatchBitmap

/-! ## Operations in binary32 -/

/-- **An operation in binary32** gives `y` where the exact result would be `x`: the nearest number
with 24 significant bits, which is neither too small nor too large for the exponent. -/
structure Single (x y : ℚ) : Prop extends Significand.Rounds 24 x y where
  normal : y = 0 ∨ 2 ^ (-126 : ℤ) ≤ y ∧ y < 2 ^ (128 : ℤ)

/-- An operation has one result. -/
lemma Single.iff_eq {x z : ℚ} (h : Single x z) {y : ℚ} : Single x y ↔ y = z := by
  constructor
  · exact fun h' => h'.toRounds.unique (by decide) h.toRounds
  · rintro rfl
    exact h

/-- The number that a multiplier stands for. -/
def steps (n : ℕ) : ℚ :=
  n * 2 ^ (-27 : ℤ)

lemma steps_add (m n : ℕ) : steps (m + n) = steps m + steps n := by
  rw [steps, Nat.cast_add, add_mul]
  rfl

lemma steps_mul (m n : ℕ) : steps (m * n) = steps m * n := by
  rw [steps, steps, Nat.cast_mul, mul_right_comm]

/-- What is counted in steps is in reach of the exponents. -/
lemma normal_steps {n : ℕ} (hn : n < 2 ^ 65) :
    steps n = 0 ∨ 2 ^ (-126 : ℤ) ≤ steps n ∧ steps n < 2 ^ (128 : ℤ) := by
  rcases Nat.eq_zero_or_pos n with rfl | hpos
  · left
    simp [steps]
  · right
    have hlow : (1 : ℚ) ≤ n := by exact_mod_cast hpos
    have hhigh : (n : ℚ) < 2 ^ 65 := by exact_mod_cast hn
    rw [steps]
    constructor
    · calc (2 : ℚ) ^ (-126 : ℤ) ≤ 1 * 2 ^ (-27 : ℤ) := by norm_num
        _ ≤ n * 2 ^ (-27 : ℤ) := by gcongr
    · calc (n : ℚ) * 2 ^ (-27 : ℤ) < 2 ^ 65 * 2 ^ (-27 : ℤ) := by gcongr
        _ ≤ 2 ^ (128 : ℤ) := by norm_num

lemma single_near (k : ℕ) {n : ℕ} (hn : n < 2 ^ (24 + k)) :
    2 * n ≤ 2 * single n + 2 ^ k ∧ 2 * single n ≤ 2 * n + 2 ^ k :=
  Significand.round_near (by decide) hn

lemma single_mono {m n : ℕ} (hmn : m ≤ n) : single m ≤ single n :=
  Significand.round_mono (by decide) hmn

lemma single_of_rounds {x y : ℚ} {n : ℕ} (hrounds : Significand.Rounds 24 x y) (hy : steps n = y)
    (hn : n < 2 ^ 65) : Single x (steps n) := by
  subst hy
  exact ⟨hrounds, normal_steps hn⟩

/-- **On multipliers the operation is `single`.** -/
lemma single_steps {n : ℕ} (hn : n < 2 ^ 64) : Single (steps n) (steps (single n)) := by
  have hrounds := Significand.rounds_round (by decide : 1 < 24) n
  have hnear := single_near 40 hn
  exact single_of_rounds (hrounds.scale (-27)) rfl (by omega)

/-! ## The weights -/

/-- This weight lies in the lower half between its neighbours, the other two in the upper half. -/
lemma single_redWeight : Single (2126 / 10000) (steps redWeight) := by
  refine single_of_rounds (n := redWeight)
    (Significand.rounds_down (c := 14267344) (s := -26) ?_ ?_ ?_ ?_ ?_ ?_) ?_ ?_
  all_goals norm_num [steps, redWeight]

lemma single_greenWeight : Single (7152 / 10000) (steps greenWeight) := by
  refine single_of_rounds (n := greenWeight)
    (Significand.rounds_up (c := 11999064) (s := -24) ?_ ?_ ?_ ?_ ?_ ?_) ?_ ?_
  all_goals norm_num [steps, greenWeight]

lemma single_blueWeight : Single (722 / 10000) (steps blueWeight) := by
  refine single_of_rounds (n := blueWeight)
    (Significand.rounds_up (c := 9690519) (s := -27) ?_ ?_ ?_ ?_ ?_ ?_) ?_ ?_
  all_goals norm_num [steps, blueWeight]

/-! ## The weighted sum -/

/-- **The weighted sum in binary32.**  The weights are rounded, and so is each product and each sum.
Red and green are added first. -/
def SumsTo (r g b : UInt8) (sum : ℚ) : Prop :=
  ∃ wr wg wb red green both blue : ℚ,
    Single (2126 / 10000) wr ∧ Single (7152 / 10000) wg ∧ Single (722 / 10000) wb ∧
    Single (wr * r.toNat) red ∧ Single (wg * g.toNat) green ∧ Single (red + green) both ∧
    Single (wb * b.toNat) blue ∧ Single (both + blue) sum

/-- The sum without any rounding, in ten-thousandths. -/
def exactSum (r g b : UInt8) : ℕ :=
  2126 * r.toNat + 7152 * g.toNat + 722 * b.toNat

lemma lumaScale_eq : lumaScale = 2 ^ 27 := rfl

section Stages

variable (r g b : UInt8)

/-- No operand is larger than that of white. -/
lemma operands_lt :
    redWeight * r.toNat < 2 ^ 33 ∧ greenWeight * g.toNat < 2 ^ 35 ∧ blueWeight * b.toNat < 2 ^ 32 ∧
      single (redWeight * r.toNat) + single (greenWeight * g.toNat) < 2 ^ 35 ∧
      single (single (redWeight * r.toNat) + single (greenWeight * g.toNat))
        + single (blueWeight * b.toNat) < 2 ^ 35 := by
  have hred := Nat.mul_le_mul_left redWeight (Nat.le_of_lt_succ r.toNat_lt)
  have hgreen := Nat.mul_le_mul_left greenWeight (Nat.le_of_lt_succ g.toNat_lt)
  have hblue := Nat.mul_le_mul_left blueWeight (Nat.le_of_lt_succ b.toNat_lt)
  have hboth := Nat.add_le_add (single_mono hred) (single_mono hgreen)
  have hsum := Nat.add_le_add (single_mono hboth) (single_mono hblue)
  exact ⟨hred.trans_lt (by decide), hgreen.trans_lt (by decide), hblue.trans_lt (by decide),
    hboth.trans_lt (by decide +kernel), hsum.trans_lt (by decide +kernel)⟩

/-- **The arithmetic of multipliers is that of binary32.** -/
theorem sumsTo_iff {sum : ℚ} : SumsTo r g b sum ↔ sum = steps (brightness r g b) := by
  obtain ⟨hred, hgreen, hblue, hboth, hsum⟩ := operands_lt r g b
  have hred := single_steps (hred.trans (by decide))
  have hgreen := single_steps (hgreen.trans (by decide))
  have hblue := single_steps (hblue.trans (by decide))
  have hboth := single_steps (hboth.trans (by decide))
  have hsum := single_steps (hsum.trans (by decide))
  simp only [SumsTo, single_redWeight.iff_eq, single_greenWeight.iff_eq, single_blueWeight.iff_eq,
    exists_and_left, exists_eq_left, ← steps_mul, ← steps_add, hred.iff_eq, hgreen.iff_eq,
    hblue.iff_eq, hboth.iff_eq, hsum.iff_eq, brightness]

/-- **The errors add up** to no more than 3705 steps.  A ten-thousandth is more than 13000. -/
lemma brightness_near :
    lumaScale * exactSum r g b ≤ 10000 * brightness r g b + 37050000 ∧
      10000 * brightness r g b ≤ lumaScale * exactSum r g b + 37050000 := by
  obtain ⟨hred, hgreen, hblue, hboth, hsum⟩ := operands_lt r g b
  -- half a unit for each operation, and less than a step in each weight
  have hred := single_near 9 hred
  have hgreen := single_near 11 hgreen
  have hblue := single_near 8 hblue
  have hboth := single_near 11 hboth
  have hsum := single_near 11 hsum
  have hr : r.toNat < 256 := r.toNat_lt
  have hg : g.toNat < 256 := g.toNat_lt
  have hb : b.toNat < 256 := b.toNat_lt
  rw [brightness, exactSum, lumaScale_eq]
  simp only [redWeight, greenWeight, blueWeight] at hred hgreen hblue hboth hsum ⊢
  omega

/-- The channel value is the nearest one, a half going up. -/
lemma toNat_luminance :
    (luminance r g b).toNat
      = (min (brightness r g b) (255 * lumaScale) + lumaScale / 2) / lumaScale := by
  refine UInt8.toNat_ofNat_of_lt' ?_
  show _ < 256
  rw [lumaScale_eq]
  omega

lemma toNat_luminance_eq_floor :
    (luminance r g b).toNat = ⌊min (steps (brightness r g b)) 255 + 1 / 2⌋₊ := by
  have hscale : (lumaScale : ℚ) = 2 ^ 27 := by rw [lumaScale_eq, Nat.cast_pow, Nat.cast_ofNat]
  have hhalf : ((lumaScale / 2 : ℕ) : ℚ) = 2 ^ 26 := by norm_num [lumaScale_eq]
  have hvalue : min (steps (brightness r g b)) 255 + 1 / 2
      = ((min (brightness r g b) (255 * lumaScale) + lumaScale / 2 : ℕ) : ℚ) / lumaScale := by
    rw [Nat.cast_add, Nat.cast_min, Nat.cast_mul, hhalf, hscale, add_div,
      ← min_div_div_right (by positivity), steps]
    norm_num [div_eq_mul_inv]
  rw [hvalue, Nat.floor_div_eq_div, toNat_luminance]

/-- An exact sum is a whole number of five-thousandths. -/
lemma exactSum_mod_two : exactSum r g b % 2 = 0 := by
  rw [exactSum]
  omega

lemma exactSum_le : exactSum r g b ≤ 255 * 10000 := by
  have hr : r.toNat < 256 := r.toNat_lt
  have hg : g.toNat < 256 := g.toNat_lt
  have hb : b.toNat < 256 := b.toNat_lt
  rw [exactSum]
  omega

/-- **Away from the middle** of two channel values the errors do not reach it. -/
lemma luminance_of_ne (hoff : exactSum r g b % 10000 ≠ 5000) :
    (luminance r g b).toNat = (exactSum r g b + 5000) / 10000 := by
  obtain ⟨hlow, hhigh⟩ := brightness_near r g b
  have heven := exactSum_mod_two r g b
  have hle := exactSum_le r g b
  -- the nearest channel value changes where this rest is zero
  have hrest : (exactSum r g b + 5000) % 10000 ≠ 0 := by omega
  clear hoff
  rw [lumaScale_eq] at hlow hhigh
  rw [toNat_luminance, lumaScale_eq]
  omega

/-- **In the middle** they do not reach any other. -/
lemma luminance_of_eq (htie : exactSum r g b % 10000 = 5000) :
    (luminance r g b).toNat = (exactSum r g b - 5000) / 10000 ∨
      (luminance r g b).toNat = (exactSum r g b + 5000) / 10000 := by
  obtain ⟨hlow, hhigh⟩ := brightness_near r g b
  have hle := exactSum_le r g b
  rw [lumaScale_eq] at hlow hhigh
  rw [toNat_luminance, lumaScale_eq]
  omega

end Stages

/-- **The luminance is the exact sum, rounded.** -/
structure RoundsExactSum (r g b : UInt8) : Prop where
  /-- Binary32 comes to one sum, and the luminance is the channel value nearest to it, a half going
  up. -/
  computed : ∃ sum, (∀ other, SumsTo r g b other ↔ other = sum) ∧
    (luminance r g b).toNat = ⌊min sum 255 + 1 / 2⌋₊
  /-- Away from the middle it is the channel value nearest to the exact sum. -/
  offTie : exactSum r g b % 10000 ≠ 5000 →
    (luminance r g b).toNat = (exactSum r g b + 5000) / 10000
  /-- In the middle it is one of the two neighbours. -/
  tie : exactSum r g b % 10000 = 5000 →
    (luminance r g b).toNat = (exactSum r g b - 5000) / 10000 ∨
      (luminance r g b).toNat = (exactSum r g b + 5000) / 10000

/-- **Rounding shows only in the middle** of two channel values. -/
theorem roundsExactSum_luminance (r g b : UInt8) : RoundsExactSum r g b where
  computed := ⟨_, fun _ => sumsTo_iff r g b, toNat_luminance_eq_floor r g b⟩
  offTie := luminance_of_ne r g b
  tie := luminance_of_eq r g b

/-- Of two colors with the same exact sum, in the middle of 127 and 128, one is rounded down and one
is rounded up. -/
example : exactSum 61 156 41 = 1275000 ∧ exactSum 78 146 90 = 1275000 ∧
    luminance 61 156 41 = 127 ∧ luminance 78 146 90 = 128 := by decide +kernel

/-! ## Brighter colors -/

section Order

variable {r g b r' g' b' : UInt8}

/-- **The brightness grows with the channels**, for each of its five roundings keeps the order. -/
lemma brightness_mono (hr : r ≤ r') (hg : g ≤ g') (hb : b ≤ b') :
    brightness r g b ≤ brightness r' g' b' := by
  have hred := single_mono (Nat.mul_le_mul_left redWeight (UInt8.le_iff_toNat_le.1 hr))
  have hgreen := single_mono (Nat.mul_le_mul_left greenWeight (UInt8.le_iff_toNat_le.1 hg))
  have hblue := single_mono (Nat.mul_le_mul_left blueWeight (UInt8.le_iff_toNat_le.1 hb))
  have hboth := single_mono (Nat.add_le_add hred hgreen)
  exact single_mono (Nat.add_le_add hboth hblue)

lemma luminance_mono (hr : r ≤ r') (hg : g ≤ g') (hb : b ≤ b') :
    luminance r g b ≤ luminance r' g' b' := by
  have hsum := brightness_mono hr hg hb
  rw [UInt8.le_iff_toNat_le, toNat_luminance, toNat_luminance]
  gcongr

end Order

lemma Color.isLit_mono {c d : Color} (hr : c.r ≤ d.r) (hg : c.g ≤ d.g) (hb : c.b ≤ d.b)
    (ha : c.a ≤ d.a) (hlit : c.isLit = true) : d.isLit = true := by
  rw [isLit, Bool.and_eq_true, decide_eq_true_eq, decide_eq_true_eq] at hlit ⊢
  exact ⟨UInt8.le_trans hlit.1 ha, UInt8.le_trans hlit.2 (luminance_mono hr hg hb)⟩

/-- **A brighter pixel is not turned off**, nor is its luminance lower. -/
theorem luminance_le_and_isLit_of_le (c d : Color) (hr : c.r ≤ d.r) (hg : c.g ≤ d.g)
    (hb : c.b ≤ d.b) (ha : c.a ≤ d.a) :
    luminance c.r c.g c.b ≤ luminance d.r d.g d.b ∧ (c.isLit = true → d.isLit = true) :=
  ⟨luminance_mono hr hg hb, Color.isLit_mono hr hg hb ha⟩

/-- A color whose exact sum is in the middle of 127 and 128 and whose alpha is just enough is lit,
and so is one that is a little brighter. -/
theorem luminance_le_and_isLit_tie :
    ((78 : UInt8) ≤ 78 ∧ (146 : UInt8) ≤ 146 ∧ (90 : UInt8) ≤ 91 ∧ (128 : UInt8) ≤ 129) ∧
      luminance 78 146 90 ≤ luminance 78 146 91 ∧
      (⟨78, 146, 90, 128⟩ : Color).isLit = true ∧ (⟨78, 146, 91, 129⟩ : Color).isLit = true := by
  have hlit : (⟨78, 146, 90, 128⟩ : Color).isLit = true := by decide +kernel
  have hbrighter := luminance_le_and_isLit_of_le ⟨78, 146, 90, 128⟩ ⟨78, 146, 91, 129⟩ (by decide)
    (by decide) (by decide) (by decide)
  exact ⟨by decide, hbrighter.1, hlit, hbrighter.2 hlit⟩

end WatchBitmap
