/-!
# Little-endian words

* `LittleEndian.ofWord`, `LittleEndian.ofShort` — the bytes of a word, the low one first.
* `LittleEndian.word`, `LittleEndian.short` — the word that bytes make up.
-/

namespace WatchBitmap.LittleEndian

/-- The byte that lies `k` bytes up. -/
def byte (k n : Nat) : UInt8 :=
  UInt8.ofNat (n >>> (8 * k))

/-- The two bytes of a word of sixteen bits. -/
def ofShort (n : UInt16) : List UInt8 :=
  [byte 0 n.toNat, byte 1 n.toNat]

/-- The four bytes of a word of thirty-two bits. -/
def ofWord (n : UInt32) : List UInt8 :=
  [byte 0 n.toNat, byte 1 n.toNat, byte 2 n.toNat, byte 3 n.toNat]

/-- The word that two bytes make up. -/
def short (b₀ b₁ : UInt8) : UInt16 :=
  UInt16.ofNat (b₀.toNat + 256 * b₁.toNat)

/-- The word that four bytes make up. -/
def word (b₀ b₁ b₂ b₃ : UInt8) : UInt32 :=
  UInt32.ofNat (b₀.toNat + 256 * (b₁.toNat + 256 * (b₂.toNat + 256 * b₃.toNat)))

/-- What is written is read back. -/
theorem short_byte (n : UInt16) : short (byte 0 n.toNat) (byte 1 n.toNat) = n := by
  have := n.toNat_lt
  apply UInt16.toNat_inj.1
  simp only [short, byte, UInt8.toNat_ofNat', UInt16.toNat_ofNat']
  omega

/-- What is written is read back. -/
theorem word_byte (n : UInt32) :
    word (byte 0 n.toNat) (byte 1 n.toNat) (byte 2 n.toNat) (byte 3 n.toNat) = n := by
  have := n.toNat_lt
  apply UInt32.toNat_inj.1
  simp only [word, byte, UInt8.toNat_ofNat', UInt32.toNat_ofNat']
  omega

/-- What is read is written with the same bytes. -/
theorem ofShort_short (b₀ b₁ : UInt8) : ofShort (short b₀ b₁) = [b₀, b₁] := by
  have := b₀.toNat_lt
  have := b₁.toNat_lt
  simp only [ofShort, List.cons.injEq, and_true]
  refine ⟨UInt8.toNat_inj.1 ?_, UInt8.toNat_inj.1 ?_⟩ <;>
    simp only [short, byte, UInt8.toNat_ofNat', UInt16.toNat_ofNat'] <;> omega

/-- What is read is written with the same bytes. -/
theorem ofWord_word (b₀ b₁ b₂ b₃ : UInt8) :
    ofWord (word b₀ b₁ b₂ b₃) = [b₀, b₁, b₂, b₃] := by
  have := b₀.toNat_lt
  have := b₁.toNat_lt
  have := b₂.toNat_lt
  have := b₃.toNat_lt
  simp only [ofWord, List.cons.injEq, and_true]
  refine ⟨UInt8.toNat_inj.1 ?_, UInt8.toNat_inj.1 ?_, UInt8.toNat_inj.1 ?_,
    UInt8.toNat_inj.1 ?_⟩ <;>
    simp only [word, byte, UInt8.toNat_ofNat', UInt32.toNat_ofNat'] <;> omega

end WatchBitmap.LittleEndian
