import Mathlib.Data.List.Basic
import Mathlib.Tactic.Common
import Mathlib.Tactic.Ring
import WatchBitmap.Proofs.BitPacking

/-!
# Packing in the arithmetic of bytes

Packer and unpacker were defined with numerals that know no bound.  Nothing larger than a byte is
needed: the byte under way, how many of its bits are filled, the mask and the amounts to shift by
can all be bytes.  What has to be shown then is that each operation on them means what it says, for
in bytes a difference can lie below zero, a sum or a product past 255, and a shift by eight places
or more is none.

* `sub?`, `add?`, `mul?`, `shiftLeft?`, `shiftRight?` — operations on bytes, undefined where they do
  not mean what they say; each comes with the case in which it does.
* `packRowBytes?`, `unpackRowBytes?` — packing and unpacking by these operations.
* `packRowBytes?_eq`, `unpackRowBytes?_eq` — **all of them are defined**, and the rows are the same.
-/

namespace WatchBitmap.BitPacking

/-! ## Operations on bytes -/

/-- A difference that is not below zero. -/
def sub? (a b : UInt8) : Option UInt8 :=
  if b ≤ a then some (a - b) else none

/-- A sum that is a byte. -/
def add? (a b : UInt8) : Option UInt8 :=
  if a.toNat + b.toNat < 256 then some (a + b) else none

/-- A product that is a byte. -/
def mul? (a b : UInt8) : Option UInt8 :=
  if a.toNat * b.toNat < 256 then some (a * b) else none

/-- A shift up by fewer places than a byte has. -/
def shiftLeft? (a places : UInt8) : Option UInt8 :=
  if places < 8 then some (a <<< places) else none

/-- A shift down by fewer places than a byte has. -/
def shiftRight? (a places : UInt8) : Option UInt8 :=
  if places < 8 then some (a >>> places) else none

section Operations

variable {a b : ℕ}

lemma sub?_ofNat (ha : a < 256) (hle : b ≤ a) :
    sub? (.ofNat a) (.ofNat b) = some (.ofNat (a - b)) := by
  have hbyte : UInt8.ofNat b ≤ UInt8.ofNat a := by
    rwa [UInt8.le_iff_toNat_le, UInt8.toNat_ofNat_of_lt' ha,
      UInt8.toNat_ofNat_of_lt' (Nat.lt_of_le_of_lt hle ha)]
  rw [sub?, if_pos hbyte, UInt8.ofNat_sub hle]

lemma add?_ofNat (hsum : a + b < 256) : add? (.ofNat a) (.ofNat b) = some (.ofNat (a + b)) := by
  have ha : a < 256 := by omega
  have hb : b < 256 := by omega
  rw [add?, UInt8.toNat_ofNat_of_lt' ha, UInt8.toNat_ofNat_of_lt' hb, if_pos hsum, UInt8.ofNat_add]

lemma mul?_ofNat (ha : a < 256) (hb : b < 256) (hproduct : a * b < 256) :
    mul? (.ofNat a) (.ofNat b) = some (.ofNat (a * b)) := by
  rw [mul?, UInt8.toNat_ofNat_of_lt' ha, UInt8.toNat_ofNat_of_lt' hb, if_pos hproduct,
    UInt8.ofNat_mul]

lemma ofNat_lt_eight {places : ℕ} (h : places < 8) : UInt8.ofNat places < 8 := by
  rw [UInt8.lt_iff_toNat_lt, UInt8.toNat_ofNat_of_lt' (by omega : places < 256)]
  exact h

lemma ofNat_ne_eight {places : ℕ} (h : places < 8) : UInt8.ofNat places ≠ 8 := by
  intro heq
  have hlt := ofNat_lt_eight h
  rw [heq] at hlt
  exact absurd hlt (by decide)

lemma shiftLeft?_ofNat {places : ℕ} (h : places < 8) :
    shiftLeft? (.ofNat a) (.ofNat places) = some (.ofNat (a <<< places)) := by
  rw [shiftLeft?, if_pos (ofNat_lt_eight h), UInt8.ofNat_shiftLeft _ _ h]

lemma shiftRight?_ofNat (byte : UInt8) {places : ℕ} (h : places < 8) :
    shiftRight? byte (.ofNat places) = some (.ofNat (byte.toNat >>> places)) := by
  have hshift : byte >>> UInt8.ofNat places = UInt8.ofNat (byte.toNat >>> places) := by
    rw [← UInt8.ofNat_toNat (x := byte >>> UInt8.ofNat places), UInt8.toNat_shiftRight,
      UInt8.toNat_ofNat_of_lt' (by omega : places < 256), Nat.mod_eq_of_lt h]
  rw [shiftRight?, if_pos (ofNat_lt_eight h), hshift]

end Operations

/-! ## The mask -/

variable {bits byte slot : ℕ}

/-- The mask for the low `bits` bits. -/
def mask? (bits : UInt8) : Option UInt8 := do
  let power ← shiftLeft? 1 bits
  sub? power 1

/-- **The mask** is that of fewer than eight bits; for eight there would be none. -/
lemma mask?_ofNat (hbits : bits < 8) : mask? (.ofNat bits) = some (.ofNat (2 ^ bits - 1)) := by
  have hpower : 2 ^ bits < 2 ^ 8 := Nat.pow_lt_pow_right (by decide) hbits
  have hshift : shiftLeft? 1 (.ofNat bits) = some (.ofNat (2 ^ bits)) := by
    rw [← Nat.one_shiftLeft]
    exact shiftLeft?_ofNat hbits
  simp only [mask?, hshift, Option.bind_eq_bind, Option.bind_some]
  exact sub?_ofNat hpower (Nat.one_le_two_pow)

/-- Masking keeps the low bits. -/
lemma ofNat_and_mask (bits n : ℕ) :
    UInt8.ofNat n &&& UInt8.ofNat (2 ^ bits - 1) = UInt8.ofNat (n % 2 ^ bits) := by
  rw [← UInt8.ofNat_and, Nat.and_two_pow_sub_one_eq_mod]

/-- A width that divides a byte leaves room for another value, unless it is the whole byte. -/
lemma bits_lt (hbits : bits ∣ 8) (hne : bits ≠ 8) : bits < 8 :=
  Nat.lt_of_le_of_ne (bits_le hbits) hne

lemma slotShift_lt (hbits : bits ∣ 8) (slot : ℕ) : slotShift bits slot < 8 := by
  have hpos := bits_pos hbits
  rw [slotShift, Nat.mul_succ]
  omega

/-! ## Values of eight bits -/

lemma slotsPerByte_eight : slotsPerByte 8 = 1 := rfl

/-- A value of eight bits is the whole byte. -/
lemma lowBits_eight (value : UInt8) : lowBits 8 value = value :=
  lowBits_of_lt value.toNat_lt

/-- Each byte of a row is its own slot if values have eight bits. -/
lemma slots_eight (row : List UInt8) : slots 8 row = row := by
  have hbyte : ∀ byte : UInt8, unpackByte 8 byte = [byte] := by
    intro byte
    rw [unpackByte, slotsPerByte_eight, List.range_one, List.map_singleton]
    exact congrArg ([·]) (lowBits_eight byte)
  rw [slots, funext hbyte, List.flatMap_singleton']

/-- Values of eight bits are packed as they are: their slots are the row, and there
is no padding. -/
lemma packRow_eight (values : List UInt8) : packRow 8 values = values := by
  obtain ⟨pad, hpad, hslots⟩ := slots_packRow (Nat.dvd_refl 8) values
  obtain rfl : pad = 0 := Nat.lt_one_iff.1 hpad
  rw [slots_eight, funext lowBits_eight, List.map_id', List.replicate_zero, List.append_nil]
    at hslots
  exact hslots

/-! ## Packing -/

/-- Packing with a byte under way of which some bits are filled. -/
def packBytes? (bits mask : UInt8) : (byte filled : UInt8) → List UInt8 → Option (List UInt8)
  | byte, filled, [] => some (if 0 < filled then [byte] else [])
  | byte, filled, value :: values => do
      let free ← sub? 8 filled
      let shift ← sub? free bits
      let placed ← shiftLeft? (value &&& mask) shift
      let filled ← add? filled bits
      if filled = 8 then
        return (byte ||| placed) :: (← packBytes? bits mask 0 0 values)
      else
        packBytes? bits mask (byte ||| placed) filled values

/-- **Packing a row by operations on bytes.**  Values of eight bits are bytes already. -/
def packRowBytes? (bits : UInt8) (values : List UInt8) : Option (List UInt8) :=
  if bits = 8 then
    some values
  else do
    let mask ← mask? bits
    packBytes? bits mask 0 0 values

/-- The slots of a byte up to any of them are at most eight bits. -/
lemma mul_succ_le (hbits : bits ∣ 8) (hslot : slot < slotsPerByte bits) :
    bits * (slot + 1) ≤ 8 := by
  have hle : bits * (slot + 1) ≤ bits * slotsPerByte bits := Nat.mul_le_mul_left bits hslot
  rwa [bits_mul_slotsPerByte hbits] at hle

/-- **Adding is joining.**  A value is put where the byte under way is empty. -/
lemma Underway.or_place (hbits : bits ∣ 8) (h : Underway bits byte slot) (value : UInt8) :
    UInt8.ofNat byte ||| UInt8.ofNat (place bits slot value)
      = UInt8.ofNat (byte + place bits slot value) := by
  obtain ⟨q, hq⟩ := h.dvd
  have hlow : value.toNat % 2 ^ bits < 2 ^ bits := Nat.mod_lt _ (Nat.two_pow_pos bits)
  have hplace : place bits slot value < 2 ^ (8 - bits * slot) := by
    rw [place, Nat.shiftLeft_eq, Nat.one_shiftLeft, ← slotShift_add hbits h.slot_lt, pow_add,
      Nat.mul_comm]
    exact Nat.mul_lt_mul_of_pos_left hlow (Nat.two_pow_pos _)
  rw [← UInt8.ofNat_or, hq, Nat.two_pow_add_eq_or_of_lt hplace]

/-- A value is masked and shifted to its slot. -/
lemma shiftLeft?_and_mask (hbits : bits ∣ 8) (slot : ℕ) (value : UInt8) :
    shiftLeft? (value &&& .ofNat (2 ^ bits - 1)) (.ofNat (slotShift bits slot))
      = some (.ofNat (place bits slot value)) := by
  have hmask := ofNat_and_mask bits value.toNat
  rw [UInt8.ofNat_toNat] at hmask
  rw [hmask, shiftLeft?_ofNat (slotShift_lt hbits slot), place, Nat.one_shiftLeft]

/-- The filled bits make up the byte exactly behind its last slot. -/
lemma Underway.ofNat_eq_eight_iff (hbits : bits ∣ 8) (h : Underway bits byte slot) :
    UInt8.ofNat (bits * (slot + 1)) = 8 ↔ ¬ slot + 1 < slotsPerByte bits := by
  have hroom := mul_succ_le hbits h.slot_lt
  have hfull : bits * (slot + 1) = 8 ↔ slot + 1 = slotsPerByte bits := by
    rw [← bits_mul_slotsPerByte hbits, Nat.mul_left_cancel_iff (bits_pos hbits)]
  have hbyte : UInt8.ofNat (bits * (slot + 1)) = 8 ↔ bits * (slot + 1) = 8 := by
    rw [← UInt8.toNat_inj, UInt8.toNat_ofNat_of_lt' (by omega : bits * (slot + 1) < 256)]
    rfl
  have hslot := h.slot_lt
  rw [hbyte, hfull]
  omega

/-- **The packer's step by operations on bytes**: all of them are defined, and they put the value
into its slot. -/
lemma Underway.packBytes?_cons (hbits : bits ∣ 8) (h : Underway bits byte slot) (value : UInt8)
    (values : List UInt8) :
    packBytes? (.ofNat bits) (.ofNat (2 ^ bits - 1)) (.ofNat byte) (.ofNat (bits * slot))
        (value :: values)
      = if slot + 1 < slotsPerByte bits then
          packBytes? (.ofNat bits) (.ofNat (2 ^ bits - 1))
            (.ofNat (byte + place bits slot value)) (.ofNat (bits * (slot + 1))) values
        else
          (packBytes? (.ofNat bits) (.ofNat (2 ^ bits - 1)) 0 0 values).map
            (UInt8.ofNat (byte + place bits slot value) :: ·) := by
  have hroom := mul_succ_le hbits h.slot_lt
  rw [Nat.mul_succ] at hroom
  have hfree : sub? 8 (.ofNat (bits * slot)) = some (.ofNat (8 - bits * slot)) :=
    sub?_ofNat (a := 8) (by decide) (by omega)
  have hshift : sub? (.ofNat (8 - bits * slot)) (.ofNat bits)
      = some (.ofNat (slotShift bits slot)) := by
    rw [sub?_ofNat (by omega) (by omega), slotShift, Nat.mul_succ, Nat.sub_sub]
  have hfilled : add? (.ofNat (bits * slot)) (.ofNat bits) = some (.ofNat (bits * (slot + 1))) := by
    rw [add?_ofNat (by omega), Nat.mul_succ]
  simp only [packBytes?, hfree, hshift, shiftLeft?_and_mask hbits, hfilled, h.or_place hbits,
    Option.bind_eq_bind, Option.bind_some, h.ofNat_eq_eight_iff hbits, ite_not, Option.map_eq_bind]
  rfl

/-- What the packer does by operations on bytes.  The induction is on the values still to come; the
invariant is the one of the packer. -/
lemma packBytes?_eq (hbits : bits ∣ 8) (values : List UInt8) (h : Underway bits byte slot) :
    packBytes? (.ofNat bits) (.ofNat (2 ^ bits - 1)) (.ofNat byte) (.ofNat (bits * slot)) values
      = some (packFrom bits byte slot values) := by
  induction values generalizing byte slot with
  | nil =>
      have hroom := mul_succ_le hbits h.slot_lt
      rw [Nat.mul_succ] at hroom
      have hfilled : 0 < UInt8.ofNat (bits * slot) ↔ ¬ slot = 0 := by
        rw [UInt8.lt_iff_toNat_lt, UInt8.toNat_ofNat_of_lt' (by omega : bits * slot < 256)]
        exact ⟨fun hpos hzero => by simp [hzero] at hpos,
          fun hne => Nat.mul_pos (bits_pos hbits) (Nat.pos_of_ne_zero hne)⟩
      simp only [packBytes?, packFrom, hfilled, ite_not]
  | cons value values ih =>
      rw [h.packBytes?_cons hbits, packFrom]
      split_ifs with hslot
      · exact ih (h.step hbits hslot value)
      · have hempty := ih (Underway.empty hbits)
        rw [Nat.mul_zero] at hempty
        exact congrArg (Option.map _) hempty

/-- **Packing never leaves the bytes.**  No amount to shift by lies below zero or reaches eight, and
the row is the one that `packRow` gives. -/
theorem packRowBytes?_eq (hbits : bits ∣ 8) (values : List UInt8) :
    packRowBytes? (.ofNat bits) values = some (packRow bits values) := by
  by_cases hwhole : bits = 8
  · subst hwhole
    rw [packRow_eight]
    rfl
  · have hlt := bits_lt hbits hwhole
    have hrow := packBytes?_eq hbits values (Underway.empty hbits)
    rw [Nat.mul_zero] at hrow
    simp only [packRowBytes?, if_neg (ofNat_ne_eight hlt), mask?_ofNat hlt, Option.bind_eq_bind,
      Option.bind_some]
    exact hrow

/-! ## Unpacking -/

/-- How far the value in a slot has to be shifted down. -/
def slotShift? (bits slot : UInt8) : Option UInt8 := do
  let slots ← add? 1 slot
  let used ← mul? bits slots
  sub? 8 used

/-- The value at position `x` of a row with so many values per byte. -/
def valueBytes? (bits mask : UInt8) (perByte : ℕ) (row : List UInt8) (x : ℕ) : Option UInt8 := do
  let byte ← row[x / perByte]?
  let shift ← slotShift? bits (.ofNat (x % perByte))
  let shifted ← shiftRight? byte shift
  return shifted &&& mask

/-- **Unpacking a row by operations on bytes.**  Values of eight bits are the front of the row. -/
def unpackRowBytes? (bits : UInt8) (width : ℕ) (row : List UInt8) : Option (List UInt8) :=
  if bits = 8 then
    if width ≤ row.length then some (row.take width) else none
  else do
    let mask ← mask? bits
    (List.range width).mapM (valueBytes? bits mask (8 / bits).toNat row)

lemma slotShift?_ofNat (hbits : bits ∣ 8) (hslot : slot < slotsPerByte bits) :
    slotShift? (.ofNat bits) (.ofNat slot) = some (.ofNat (slotShift bits slot)) := by
  have hle := mul_succ_le hbits hslot
  have hcount := Nat.le_mul_of_pos_left (slot + 1) (bits_pos hbits)
  have hbyte := bits_le hbits
  have hslots : add? 1 (.ofNat slot) = some (.ofNat (slot + 1)) := by
    rw [Nat.add_comm slot]
    exact add?_ofNat (a := 1) (by omega)
  have hused : mul? (.ofNat bits) (.ofNat (slot + 1)) = some (.ofNat (bits * (slot + 1))) :=
    mul?_ofNat (by omega) (by omega) (by omega)
  simp only [slotShift?, hslots, hused, Option.bind_eq_bind, Option.bind_some]
  exact sub?_ofNat (a := 8) (by decide) hle

/-- A value is fetched by operations on bytes, if its byte is there. -/
lemma valueBytes?_eq (hbits : bits ∣ 8) (row : List UInt8) (x : ℕ) :
    valueBytes? (.ofNat bits) (.ofNat (2 ^ bits - 1)) (slotsPerByte bits) row x
      = (slots bits row)[x]? := by
  have hslot : x % slotsPerByte bits < slotsPerByte bits := Nat.mod_lt x (slotsPerByte_pos hbits)
  rw [getElem?_slots hbits, valueBytes?, slotShift?_ofNat hbits hslot]
  cases row[x / slotsPerByte bits]? with
  | none => rfl
  | some byte =>
      simp only [shiftRight?_ofNat byte (slotShift_lt hbits _), ofNat_and_mask,
        Option.bind_eq_bind, Option.bind_some, Option.map_some, slotValue, Nat.one_shiftLeft]
      rfl

/-- **Unpacking never leaves the bytes**, nor the row if that is long enough. -/
theorem unpackRowBytes?_eq (hbits : bits ∣ 8) (width : ℕ) (row : List UInt8) :
    unpackRowBytes? (.ofNat bits) width row = unpackRow? bits width row := by
  by_cases hwhole : bits = 8
  · subst hwhole
    rw [unpackRow?, ← slots, slots_eight, slotsPerByte_eight, Nat.mul_one]
    rfl
  · have hlt := bits_lt hbits hwhole
    have hperByte : (8 / UInt8.ofNat bits).toNat = slotsPerByte bits := by
      rw [UInt8.toNat_div, UInt8.toNat_ofNat_of_lt' (by omega : bits < 256)]
      rfl
    simp only [unpackRowBytes?, if_neg (ofNat_ne_eight hlt), mask?_ofNat hlt, hperByte,
      funext (valueBytes?_eq hbits row), mapM_getElem?_range, length_slots, Option.bind_eq_bind,
      Option.bind_some]
    rfl

end WatchBitmap.BitPacking
