import Mathlib.Data.List.Basic
import Mathlib.Tactic.Common
import Mathlib.Tactic.Ring
import WatchBitmap.Rows

/-!
# Lists made of blocks of one length

A picture is a list of rows, a packed row is a list of bytes of equally many slots, and a palette
table is a list of entries of four bytes.  In each case a position in the long list is a block and
a place inside it, and this file says so once.

* `getElem?_flatMap_blocks`, `length_flatMap_blocks`, `mul_add_lt_mul` — blocks put end to end.
* `getElem?_splitRows`, `splitRows_flatten` — a list cut into blocks again.
* `mapM_eq_pure` — what is done block by block and never fails.
* `length_of_mapM_eq_ok` — what may fail and has not.
* `mapM_getElem?_range` — what fails where the list ends.
-/

namespace WatchBitmap

variable {α β : Type}

/-- Blocks of `n` elements take `n` places each. -/
lemma length_flatMap_blocks {f : α → List β} {n : ℕ} {xs : List α}
    (hf : ∀ x ∈ xs, (f x).length = n) : (xs.flatMap f).length = xs.length * n := by
  induction xs with
  | nil => simp
  | cons x xs ih =>
      have hx := hf x List.mem_cons_self
      have hxs := ih fun y hy => hf y (List.mem_cons_of_mem x hy)
      rw [List.flatMap_cons, List.length_append, hx, hxs, List.length_cons]
      ring

/-- A place inside one of `m` blocks is a place of the whole. -/
lemma mul_add_lt_mul {m n i j : ℕ} (hi : i < m) (hj : j < n) : i * n + j < m * n :=
  calc i * n + j < (i + 1) * n := by rw [Nat.succ_mul]; omega
    _ ≤ m * n := Nat.mul_le_mul_right n hi

/-- **Where an element of a block lies.**  Place `j` of block `i` is place `i * n + j` of the
whole. -/
lemma getElem?_flatMap_blocks {f : α → List β} {n : ℕ} {xs : List α}
    (hf : ∀ x ∈ xs, (f x).length = n) (i : ℕ) {j : ℕ} (hj : j < n) :
    (xs.flatMap f)[i * n + j]? = xs[i]?.bind fun x => (f x)[j]? := by
  induction xs generalizing i with
  | nil => simp
  | cons x xs ih =>
      have hx := hf x List.mem_cons_self
      have hxs : ∀ y ∈ xs, (f y).length = n := fun y hy => hf y (List.mem_cons_of_mem x hy)
      rw [List.flatMap_cons]
      cases i with
      | zero =>
          rw [List.getElem?_append_left (by rw [hx]; omega)]
          simp
      | succ i =>
          have hle : (f x).length ≤ (i + 1) * n + j := by rw [hx, Nat.succ_mul]; omega
          have hsub : (i + 1) * n + j - (f x).length = i * n + j := by
            rw [hx, Nat.succ_mul]; omega
          rw [List.getElem?_append_right hle, hsub, List.getElem?_cons_succ]
          exact ih hxs i

/-- A row is a stretch of the list that was cut. -/
lemma getElem?_splitRows {width height y : ℕ} (hy : y < height) (xs : List α) :
    (splitRows width height xs)[y]? = some ((xs.drop (y * width)).take width) := by
  induction height generalizing y xs with
  | zero => exact absurd hy (Nat.not_lt_zero y)
  | succ height ih =>
      cases y with
      | zero => simp [splitRows]
      | succ y =>
          rw [splitRows, List.getElem?_cons_succ, ih (Nat.lt_of_succ_lt_succ hy), List.drop_drop,
            Nat.succ_mul, Nat.add_comm]

/-- Cutting undoes putting rows end to end. -/
lemma splitRows_flatten {width : ℕ} {rows : List (List α)} (h : ∀ row ∈ rows, row.length = width) :
    splitRows width rows.length rows.flatten = rows := by
  induction rows with
  | nil => rfl
  | cons row rows ih =>
      have hrow := h row List.mem_cons_self
      have hrows := ih fun r hr => h r (List.mem_cons_of_mem row hr)
      rw [List.length_cons, splitRows, List.flatten_cons, List.take_left' hrow,
        List.drop_left' hrow, hrows]

/-- Where each element has its result, so has the list. -/
lemma mapM_eq_pure {m : Type → Type} [Monad m] [LawfulMonad m] {f : α → m β} {g : α → β}
    {xs : List α} (h : ∀ x ∈ xs, f x = pure (g x)) : xs.mapM f = pure (xs.map g) := by
  induction xs with
  | nil => simp
  | cons x xs ih =>
      have hx := h x List.mem_cons_self
      have hxs := ih fun y hy => h y (List.mem_cons_of_mem x hy)
      simp [List.mapM_cons, hx, hxs]

/-- What is done element by element gives as many results. -/
lemma length_of_mapM_eq_ok {ε : Type} {f : α → Except ε β} {xs : List α} {ys : List β}
    (h : xs.mapM f = .ok ys) : ys.length = xs.length := by
  induction xs generalizing ys with
  | nil =>
      obtain rfl := Except.ok.inj h
      rfl
  | cons x xs ih =>
      rw [List.mapM_cons] at h
      cases hx : f x with
      | error e => simp [hx, bind, Except.bind] at h
      | ok y =>
          cases hxs : xs.mapM f with
          | error e => simp [hx, hxs, bind, Except.bind] at h
          | ok rest =>
              simp only [hx, hxs, bind, Except.bind, pure, Except.pure, Except.ok.injEq] at h
              rw [← h, List.length_cons, List.length_cons, ih hxs]

/-- Looking at the first `n` places one by one gives the first `n` elements, if there
are so many. -/
lemma mapM_getElem?_range (xs : List α) (n : ℕ) :
    (List.range n).mapM (xs[·]?) = if n ≤ xs.length then some (xs.take n) else none := by
  induction n with
  | zero => simp
  | succ n ih =>
      rw [List.range_succ, List.mapM_append, ih]
      rcases Nat.lt_or_ge n xs.length with hlt | hge
      · rw [if_pos hlt.le, if_pos (Nat.succ_le_of_lt hlt), List.take_add_one, List.mapM_cons,
          List.getElem?_eq_getElem hlt]
        rfl
      · rw [if_neg (by omega : ¬ n + 1 ≤ xs.length), List.mapM_cons, List.getElem?_eq_none hge]
        split_ifs <;> rfl

end WatchBitmap
