/-!
# Cutting a row-major list into rows

* `splitRows` — the first `height` stretches of `width` elements.
* `flatten_splitRows` — of a list of the right length nothing is lost.
-/

namespace WatchBitmap

variable {α : Type}

/-- The first `height` rows of a list that holds `width` elements per row, end to end. -/
def splitRows (width : Nat) : (height : Nat) → List α → List (List α)
  | 0, _ => []
  | height + 1, xs => xs.take width :: splitRows width height (xs.drop width)

@[simp] theorem length_splitRows (width height : Nat) (xs : List α) :
    (splitRows width height xs).length = height := by
  induction height generalizing xs with
  | zero => rfl
  | succ height ih => simp [splitRows, ih]

/-- The rows, put end to end again, are the list. -/
theorem flatten_splitRows {width height : Nat} {xs : List α} (h : xs.length = width * height) :
    (splitRows width height xs).flatten = xs := by
  induction height generalizing xs with
  | zero =>
      have : xs = [] := List.length_eq_zero_iff.1 (by simpa using h)
      simp [splitRows, this]
  | succ height ih =>
      rw [Nat.mul_succ] at h
      rw [splitRows, List.flatten_cons, ih (by rw [List.length_drop]; omega),
        List.take_append_drop]

/-- Each row of a list of the right length is full. -/
theorem length_of_mem_splitRows {width height : Nat} {xs row : List α}
    (h : xs.length = width * height) (hrow : row ∈ splitRows width height xs) :
    row.length = width := by
  induction height generalizing xs with
  | zero => simp [splitRows] at hrow
  | succ height ih =>
      rw [Nat.mul_succ] at h
      rcases List.mem_cons.1 hrow with rfl | hrow
      · rw [List.length_take]
        omega
      · exact ih (by rw [List.length_drop]; omega) hrow

end WatchBitmap
