import Mathlib.Tactic.Common
import WatchBitmap.Header

/-!
# Headers are read as they were written

* `Header.read_toBytes_append` — reading the bytes of a header comes down to checking it, whatever
  follows them.
* `Header.wellFormed_ofPicture` — the header of a picture passes that check.
* `Header.isCompressed_ofPicture`, `Header.isTransparent_ofPicture`, `Header.colorKey_ofPicture` —
  its flags say what was asked for.
* `Header.wellFormed_of_read`, `Header.read_append`, `Header.read_of_length_lt` — reading arbitrary
  bytes: the result is well formed, and depends on the first twenty bytes.
* `Header.read_eq_ok_iff_toBytes` — **reading and writing are inverse**, up to the two bytes at the
  end that reading does not look at (`Header.read_take_toBytes_append`).
-/

namespace WatchBitmap.Header

/-- **Reading what was written** finds every field where it was put. -/
theorem read_toBytes_append (h : Header) (rest : List UInt8) :
    Header.read (h.toBytes ++ rest) = h.check := by
  have hversion : LittleEndian.short (LittleEndian.byte 0 layoutVersion.toNat)
      (LittleEndian.byte 1 layoutVersion.toNat) = layoutVersion :=
    LittleEndian.short_byte layoutVersion
  simp only [toBytes, LittleEndian.ofShort, LittleEndian.ofWord, List.cons_append,
    List.nil_append, Header.read, hversion, Format.ofTag?_tag, LittleEndian.short_byte,
    LittleEndian.word_byte, ne_eq, not_true_eq_false, if_false]

/-- A well-formed header is read back. -/
lemma WellFormed.read_toBytes_append {h : Header} (hwf : h.WellFormed) (rest : List UInt8) :
    Header.read (h.toBytes ++ rest) = .ok h := by
  rw [Header.read_toBytes_append]
  exact check_eq_ok_iff.2 ⟨rfl, hwf⟩

/-- No flag is set that has no meaning. -/
lemma flags_known (key : Option ColorKey) (compressed : Bool) :
    (keyFlags key ||| if compressed then compressedFlag else 0) &&& ~~~knownFlags = 0 := by
  cases compressed <;> rcases key with _ | _ | _ <;> decide

variable (format : Format) (width height : UInt32) (paletteSize : UInt16)
  (key : Option ColorKey) (compressed : Bool)

/-- **The header of a picture is well formed**, if the picture has pixels and its palette fits. -/
theorem wellFormed_ofPicture (hwidth : width ≠ 0) (hheight : height ≠ 0)
    (hsize : paletteSize.toNat ≤ format.paletteLimit) :
    (ofPicture format width height paletteSize key compressed).WellFormed where
  flags := flags_known key compressed
  width := hwidth
  height := hheight
  rowStride := rfl
  paletteSize := hsize

@[simp] lemma isCompressed_ofPicture :
    (ofPicture format width height paletteSize key compressed).isCompressed = compressed := by
  simp only [isCompressed, ofPicture]
  cases compressed <;> rcases key with _ | _ | _ <;> decide

@[simp] lemma isTransparent_ofPicture :
    (ofPicture format width height paletteSize key compressed).isTransparent = key.isSome := by
  simp only [isTransparent, ofPicture]
  cases compressed <;> rcases key with _ | _ | _ <;> decide

/-- The flag for white is set for the white key only. -/
lemma whiteKey_ofPicture :
    (ofPicture format width height paletteSize key compressed).flags &&& whiteKeyFlag
      = if key = some .white then whiteKeyFlag else 0 := by
  simp only [ofPicture]
  cases compressed <;> rcases key with _ | _ | _ <;> decide

@[simp] lemma colorKey_ofPicture :
    (ofPicture format width height paletteSize key compressed).colorKey = key := by
  rw [colorKey, isTransparent_ofPicture, whiteKey_ofPicture]
  rcases key with _ | _ | _ <;> rfl

lemma rowStride_ofPicture :
    (ofPicture format width height paletteSize key compressed).rowStride.toNat
      = format.rowBytes width.toNat :=
  format.rowStride_toNat width

/-! ## Reading arbitrary bytes -/

/-- Too few bytes for a header are found to be too few. -/
lemma read_of_length_lt {bytes : List UInt8} (h : bytes.length < headerSize) :
    Header.read bytes = .error (.truncated headerSize bytes.length) := by
  rw [headerSize] at h
  unfold Header.read
  split
  · simp only [List.length_cons] at h
    omega
  · rfl

lemma headerSize_le_of_read {bytes : List UInt8} {h : Header} (hread : Header.read bytes = .ok h) :
    headerSize ≤ bytes.length := by
  by_contra hshort
  rw [read_of_length_lt (Nat.lt_of_not_le hshort)] at hread
  exact absurd hread (by simp)

/-- **Nothing behind the header is looked at.** -/
lemma read_append {bytes : List UInt8} (h : headerSize ≤ bytes.length) (rest : List UInt8) :
    Header.read (bytes ++ rest) = Header.read bytes := by
  -- the first twenty bytes by name, as the reader matches them; shorter lists are ruled out
  rcases bytes with _ | ⟨_, _ | ⟨_, _ | ⟨_, _ | ⟨_, _ | ⟨_, _ | ⟨_, _ | ⟨_, _ | ⟨_, _ | ⟨_, _ | ⟨_,
    _ | ⟨_, _ | ⟨_, _ | ⟨_, _ | ⟨_, _ | ⟨_, _ | ⟨_, _ | ⟨_, _ | ⟨_, _ | ⟨_, _ | ⟨_, tail⟩⟩⟩⟩⟩⟩⟩⟩⟩⟩⟩⟩⟩⟩⟩⟩⟩⟩⟩⟩
  on_goal 21 => rfl
  all_goals exact absurd h (by simp [headerSize])

lemma read_take {bytes : List UInt8} {cut : ℕ} (hcut : headerSize ≤ cut)
    (h : headerSize ≤ bytes.length) : Header.read (bytes.take cut) = Header.read bytes := by
  have hlen : headerSize ≤ (bytes.take cut).length := by
    rw [List.length_take]
    exact Nat.le_min.2 ⟨hcut, h⟩
  rw [← read_append hlen (bytes.drop cut), List.take_append_drop]

/-- **A header that is read is well formed.** -/
lemma wellFormed_of_read {bytes : List UInt8} {h : Header} (hread : Header.read bytes = .ok h) :
    h.WellFormed := by
  unfold Header.read at hread
  split at hread
  · split_ifs at hread
    split at hread
    · exact absurd hread (by simp)
    · exact (check_eq_ok_iff.1 hread).1 ▸ (check_eq_ok_iff.1 hread).2
  · exact absurd hread (by simp)

/-- The declared stride is that of the declared width. -/
lemma WellFormed.rowStride_toNat {h : Header} (hwf : h.WellFormed) :
    h.rowStride.toNat = h.format.rowBytes h.width.toNat := by
  rw [hwf.rowStride, Format.rowStride_toNat]

/-! ## Reading undoes writing, and writing reading -/

/-- The bytes of a header that are looked at.  Behind them there are two that are not. -/
def fieldsSize : ℕ := 18

/-- **The two bytes at the end do not matter**, nor does what follows them. -/
lemma read_take_toBytes_append (h : Header) (r₀ r₁ : UInt8) (rest : List UInt8) :
    Header.read (h.toBytes.take fieldsSize ++ r₀ :: r₁ :: rest) = h.check := by
  rw [← read_toBytes_append h rest]
  rfl

/-- Bytes are read as the header whose fields they would be written from. -/
lemma take_toBytes_of_read {bytes : List UInt8} {h : Header} (hread : Header.read bytes = .ok h) :
    bytes.take fieldsSize = h.toBytes.take fieldsSize := by
  unfold Header.read at hread
  split at hread
  · next v₀ v₁ tag flags w₀ w₁ w₂ w₃ h₀ h₁ h₂ h₃ s₀ s₁ s₂ s₃ p₀ p₁ _ _ _ =>
      split_ifs at hread with hversion
      rw [ne_eq, not_not] at hversion
      split at hread
      · exact absurd hread (by simp)
      · next format htag =>
          obtain ⟨rfl, -⟩ := check_eq_ok_iff.1 hread
          have htag : format.tag = tag := Format.ofTag?_eq_some_iff.1 htag
          simp only [toBytes, ← hversion, htag, LittleEndian.ofShort_short,
            LittleEndian.ofWord_word]
          rfl
  · exact absurd hread (by simp)

/-- Bytes are enough for a header if there are two behind its fields. -/
lemma exists_reserved {bytes : List UInt8} (h : headerSize ≤ bytes.length) :
    ∃ r₀ r₁ rest, bytes = bytes.take fieldsSize ++ r₀ :: r₁ :: rest := by
  have hlen : (bytes.drop fieldsSize).length = bytes.length - fieldsSize := List.length_drop
  rw [headerSize] at h
  rw [fieldsSize] at hlen ⊢
  match hdrop : bytes.drop 18 with
  | r₀ :: r₁ :: rest => exact ⟨r₀, r₁, rest, by rw [← hdrop, List.take_append_drop]⟩
  | [_] =>
      rw [hdrop, List.length_singleton] at hlen
      omega
  | [] =>
      rw [hdrop, List.length_nil] at hlen
      omega

/-- **A header is read exactly from the bytes that it is written with**, up to the two that are not
looked at, and only if it is well formed.  So the header of a picture is read back in front of any
bytes. -/
theorem read_eq_ok_iff_toBytes :
    (∀ (bytes : List UInt8) (h : Header), Header.read bytes = .ok h ↔
        headerSize ≤ bytes.length ∧ bytes.take fieldsSize = h.toBytes.take fieldsSize ∧
          h.WellFormed) ∧
      ∀ (format : Format) (width height : UInt32) (paletteSize : UInt16) (key : Option ColorKey)
        (compressed : Bool) (rest : List UInt8),
        width ≠ 0 → height ≠ 0 → paletteSize.toNat ≤ format.paletteLimit →
          Header.read ((ofPicture format width height paletteSize key compressed).toBytes ++ rest)
            = .ok (ofPicture format width height paletteSize key compressed) := by
  refine ⟨fun bytes h => ⟨fun hread => ?_, ?_⟩, ?_⟩
  · exact ⟨headerSize_le_of_read hread, take_toBytes_of_read hread, wellFormed_of_read hread⟩
  · rintro ⟨hlen, hfields, hwf⟩
    obtain ⟨r₀, r₁, rest, hbytes⟩ := exists_reserved hlen
    rw [hbytes, hfields, read_take_toBytes_append]
    exact check_eq_ok_iff.2 ⟨rfl, hwf⟩
  · intro format width height paletteSize key compressed rest hwidth hheight hsize
    have hwf := wellFormed_ofPicture format width height paletteSize key compressed hwidth hheight
      hsize
    exact hwf.read_toBytes_append rest

/-- The header of the widest row there is, with a full palette. -/
def widest : Header :=
  ofPicture .indexed8 0xffffffff 1 256 (some .white) true

/-- The stride of the widest row still fits its word, and what stands in the two bytes at the end
does not matter. -/
theorem read_widest :
    (0xffffffff : UInt32) ≠ 0 ∧ (1 : UInt32) ≠ 0 ∧
      (256 : UInt16).toNat ≤ Format.indexed8.paletteLimit ∧
      Header.read (widest.toBytes ++ [9]) = .ok widest ∧
      Header.read [1, 0, 3, 7, 255, 255, 255, 255, 1, 0, 0, 0, 255, 255, 255, 255, 0, 1, 170, 85]
        = .ok widest := by
  have hwf : widest.WellFormed :=
    wellFormed_ofPicture _ _ _ _ _ _ (by decide) (by decide) (by decide)
  refine ⟨by decide, by decide, by decide, ?_, ?_⟩
  · exact read_eq_ok_iff_toBytes.2 _ _ _ _ _ _ _ (by decide) (by decide) (by decide)
  · exact (read_eq_ok_iff_toBytes.1 _ _).2 ⟨by decide, by decide, hwf⟩

end WatchBitmap.Header
