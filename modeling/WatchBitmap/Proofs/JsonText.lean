import Mathlib.Data.String.Basic
import Mathlib.Tactic.Common
import WatchBitmap.Json.Text

/-!
# Strings in JSON text are read as they were written

A string is written one character at a time, and read the same way: whichever of the three forms a
character is written in (an escape with a letter of its own, an escaped unit, or the character
itself), `readBody_writeChar_append` takes that form off the front of a text and goes on behind it.

* `readEscape_letter`, `readEscape_control` — what stands behind the backslash of the two escapes.
* `read_append` — **a string is read back**, in front of any text.
-/

namespace WatchBitmap.Json.Text

lemma value?_digit : ∀ n < 16, Hex.value? (Hex.digit n) = some n := by
  decide

/-- Four characters are at least four bytes. -/
lemma not_utf8ByteSize_lt_four (a b c d : Char) :
    ¬ (String.ofList [a, b, c, d]).utf8ByteSize < 4 := by
  have ha := a.utf8Size_pos
  have hb := b.utf8Size_pos
  have hc := c.utf8Size_pos
  have hd := d.utf8Size_pos
  simp only [String.utf8ByteSize_ofList, String.utf8Len_cons, String.utf8Len_nil]
  omega

lemma readUnit_control {n : ℕ} (hn : n < 32) (rest : List Char) :
    readUnit ('0' :: '0' :: Hex.digit (n / 16) :: Hex.digit (n % 16) :: rest) = .ok (n, rest) := by
  have hzero : Hex.value? '0' = some 0 := rfl
  have hhigh := value?_digit (n / 16) (by omega)
  have hlow := value?_digit (n % 16) (by omega)
  simp only [readUnit, List.take_succ_cons, List.take_zero,
    if_neg (not_utf8ByteSize_lt_four _ _ _ _), hzero, hhigh, hlow, Except.ok.injEq, Prod.mk.injEq, and_true]
  omega

/-- A control character is behind its backslash as a unit, which is far below the halves of
characters. -/
lemma readEscape_control {c : Char} (hc : c.toNat < 32) (rest : List Char) :
    readEscape ('u' :: '0' :: '0' :: Hex.digit (c.toNat / 16) :: Hex.digit (c.toNat % 16) :: rest)
      = .ok (c, rest) := by
  have htrailing : isTrailing c.toNat = false := by simp [isTrailing]; omega
  have hleading : isLeading c.toNat = false := by simp [isLeading]; omega
  simp [readEscape, readEscapedUnit, readUnit_control hc, htrailing, hleading, bind, Except.bind,
    pure, Except.pure, Char.ofNat_toNat]

lemma readEscape_letter {c letter : Char} (h : letterOf? c = some letter) (rest : List Char) :
    readEscape (letter :: rest) = .ok (c, rest) := by
  unfold letterOf? at h
  split_ifs at h <;> simp_all <;> subst_vars <;> rfl

lemma ne_of_letterOf?_eq_none {c : Char} (h : letterOf? c = none) : c ≠ '\"' ∧ c ≠ '\\' := by
  constructor <;> rintro rfl <;> exact absurd h (by decide)

/-- What a backslash introduces is one character of the string. -/
lemma readBody_backslash {text rest : List Char} {c : Char} (h : readEscape text = .ok (c, rest)) :
    readBody ('\\' :: text) = (readBody rest).map fun (cs, rest) => (c :: cs, rest) := by
  rw [readBody, if_neg (by decide), if_pos rfl]
  split
  · next heq => rw [h] at heq; exact absurd heq (by simp)
  · next heq =>
      rw [h, Except.ok.injEq, Prod.mk.injEq] at heq
      obtain ⟨rfl, rfl⟩ := heq
      rfl

/-- **A written character is read back**, and reading goes on behind it. -/
lemma readBody_writeChar_append (c : Char) (rest : List Char) :
    readBody (writeChar c ++ rest) = (readBody rest).map fun (cs, rest) => (c :: cs, rest) := by
  unfold writeChar
  split
  · next letter hletter =>
      exact readBody_backslash (readEscape_letter hletter rest)
  · next hnone =>
      obtain ⟨hquote, hbackslash⟩ := ne_of_letterOf?_eq_none hnone
      split
      · next hcontrol => exact readBody_backslash (readEscape_control hcontrol rest)
      · next hcontrol =>
          rw [List.cons_append, List.nil_append, readBody, if_neg hquote, if_neg hbackslash,
            if_neg hcontrol]

lemma readBody_flatMap_writeChar_append (cs rest : List Char) :
    readBody (cs.flatMap writeChar ++ '\"' :: rest) = .ok (cs, rest) := by
  induction cs with
  | nil => rw [List.flatMap_nil, List.nil_append, readBody, if_pos rfl]
  | cons c cs ih =>
      rw [List.flatMap_cons, List.append_assoc, readBody_writeChar_append, ih, Except.map]

/-- **A string is read back**, behind its opening quote and in front of any text. -/
theorem read_append (s : String) (rest : List Char) :
    Text.read (s.toList.flatMap writeChar ++ '\"' :: rest) = .ok (s, rest) := by
  simp [Text.read, readBody_flatMap_writeChar_append, Except.map]

end WatchBitmap.Json.Text
