import Mathlib.Data.List.Find
import Mathlib.Tactic.Common
import WatchBitmap.Proofs.Encoding

/-!
# The narrowest format

There are two ways to the narrowest indexed format with room for a picture.  One can ask for it, and
then the colors are collected once, up to the widest capacity, and the format is looked up by their
number.  Or one can try the formats one by one, from the narrowest, each with a scan up to its own
capacity, until one does not overflow.  They come to the same.

* `overflowed` — the outcome that makes one try the next format, and `firstThatFits?`, the trials.
* `firstThatFits?_of_key` — trying formats finds what the number of colors asks for.
* `encode_smallestIndexed` — **asking for the narrowest format is trying them one by one.**
-/

namespace WatchBitmap

/-- Whether a picture was refused for having too many colors. -/
def overflowed : Except EncodeError (List UInt8) → Bool
  | .error (.paletteOverflow _ _) => true
  | _ => false

/-- **Trying formats.**  The first indexed format, from the narrowest, in which a picture is not
refused for having too many colors. -/
def firstThatFits? (b : PixelBuffer) (selector : Option String) (compression : Compression) :
    Option Format :=
  [.indexed2, .indexed4, .indexed8].find? fun format =>
    !overflowed (encode b ⟨.fixed format, selector, compression⟩)

lemma exists_of_overflowed {result : Except EncodeError (List UInt8)}
    (h : overflowed result = true) :
    ∃ colors capacity, result = .error (.paletteOverflow colors capacity) := by
  unfold overflowed at h
  split at h
  · exact ⟨_, _, rfl⟩
  · exact absurd h Bool.false_ne_true

variable {b : PixelBuffer} {format : Format}

section Key

variable (hdim : ¬ (b.width = 0 ∨ b.height = 0)) (key : Option ColorKey)
  (compression : Compression)

include hdim

/-- Whether a fixed format overflows is a matter of the number of colors. -/
lemma overflowed_encode_fixed (hindexed : format.isIndexed = true) :
    overflowed (encode b ⟨.fixed format, key.map ColorKey.name, compression⟩)
      = decide (format.capacity < distinctColors key b.colors) := by
  rcases Nat.lt_or_ge format.capacity (distinctColors key b.colors) with hover | hfits
  · rw [encode_of_overflows hdim rfl (FormatChoice.paletteCapacity?_fixed hindexed) hover,
      decide_eq_true hover]
    rfl
  · rw [encode_of_settles hdim rfl (.fixed hindexed hfits), decide_eq_false (Nat.not_lt.2 hfits)]
    rfl

/-- **Trying formats** finds the one that the number of colors asks for. -/
lemma firstThatFits?_of_key :
    firstThatFits? b (key.map ColorKey.name) compression
      = Format.smallestIndexed? (distinctColors key b.colors) := by
  refine List.find?_congr fun format hformat => ?_
  rcases format.eq_monochrome_or_isIndexed with rfl | hindexed
  · exact absurd hformat (by decide)
  · rw [overflowed_encode_fixed hdim key compression hindexed, ← decide_not]
    exact decide_eq_decide.2 Nat.not_lt

/-- With room in the widest format, asking for the narrowest is asking for the one that is found. -/
lemma encode_smallestIndexed_of_fits
    (hfits : distinctColors key b.colors ≤ Format.indexed8.capacity) :
    ∃ format, Format.smallestIndexed? (distinctColors key b.colors) = some format ∧
      encode b ⟨.smallestIndexed, key.map ColorKey.name, compression⟩
        = encode b ⟨.fixed format, key.map ColorKey.name, compression⟩ := by
  obtain ⟨format, hsettles⟩ := exists_narrowest hfits
  refine ⟨format, smallestIndexed?_of_settles hsettles, ?_⟩
  cases hsettles with
  | narrowest hindexed hroom hleast =>
      rw [encode_of_settles hdim rfl (.narrowest hindexed hroom hleast),
        encode_of_settles hdim rfl (.fixed hindexed hroom)]

/-- Without it there is no narrowest format, and none that fits. -/
lemma encode_smallestIndexed_of_overflows
    (hover : Format.indexed8.capacity < distinctColors key b.colors) :
    Format.smallestIndexed? (distinctColors key b.colors) = none ∧
      encode b ⟨.smallestIndexed, key.map ColorKey.name, compression⟩
        = .error (.paletteOverflow 257 256) ∧
      encode b ⟨.fixed .indexed8, key.map ColorKey.name, compression⟩
        = .error (.paletteOverflow 257 256) := by
  refine ⟨?_, encode_of_overflows hdim rfl rfl hover, encode_of_overflows hdim rfl rfl hover⟩
  refine List.find?_eq_none.2 fun format _ => ?_
  have hle := format.capacity_le
  rw [decide_eq_true_eq]
  omega

end Key

/-- **Asking for the narrowest format is trying them one by one.**  The result is that of the first
format that does not overflow, whatever it is: the blob, byte for byte, or the reason for which
there is none.  If all overflow it is that of the widest, which reports one color more than 256. -/
theorem encode_smallestIndexed (b : PixelBuffer) (selector : Option String)
    (compression : Compression) :
    (∀ format, firstThatFits? b selector compression = some format →
      encode b ⟨.smallestIndexed, selector, compression⟩
        = encode b ⟨.fixed format, selector, compression⟩) ∧
    (firstThatFits? b selector compression = none →
      encode b ⟨.smallestIndexed, selector, compression⟩
          = encode b ⟨.fixed .indexed8, selector, compression⟩ ∧
        encode b ⟨.fixed .indexed8, selector, compression⟩
          = .error (.paletteOverflow 257 256)) := by
  rcases refused_or_key b selector with ⟨e, hrefused, hother⟩ | ⟨hdim, key, rfl⟩
  · refine ⟨fun format _ => by rw [hrefused, hrefused], fun hnone => ?_⟩
    -- such a refusal is no overflow, so the first format that is tried would be found
    have hover := List.find?_eq_none.1 hnone .indexed2 List.mem_cons_self
    rw [hrefused, Bool.not_eq_true, Bool.not_eq_false'] at hover
    obtain ⟨colors, capacity, herror⟩ := exists_of_overflowed hover
    exact absurd (Except.error.inj herror) (hother colors capacity)
  · rw [firstThatFits?_of_key hdim]
    rcases Nat.lt_or_ge Format.indexed8.capacity (distinctColors key b.colors) with hover | hfits
    · obtain ⟨hnone, hsmallest, hwidest⟩ :=
        encode_smallestIndexed_of_overflows hdim key compression hover
      rw [hnone]
      exact ⟨fun format h => absurd h (by simp), fun _ => ⟨hsmallest.trans hwidest.symm, hwidest⟩⟩
    · obtain ⟨format, hsome, hsame⟩ := encode_smallestIndexed_of_fits hdim key compression hfits
      rw [hsome]
      refine ⟨fun format' h => ?_, fun h => absurd h (by simp)⟩
      obtain rfl := Option.some.inj h
      exact hsame

end WatchBitmap
