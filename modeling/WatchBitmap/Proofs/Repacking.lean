import Mathlib.Tactic.Common
import WatchBitmap.Proofs.ByteArithmetic
import WatchBitmap.Proofs.Consistency

/-!
# Packing undoes unpacking, and unpacking packing

Neither does so without a remainder.  A value loses what is above its low bits when it is packed,
and a row loses what stands in its padding when it is unpacked.  The rest comes back: values by the
slots of the row that they were packed into, and a row bit by bit.

* `bit?_packRow_take_slots` — **a row that is packed again** has the bits of its values, and zeros
  behind them.
* `Inverse`, `inverse_packing` — both directions, and that bytes are enough for either.
-/

namespace WatchBitmap.BitPacking

variable {bits width : ℕ} {row : List UInt8}

/-- What a slot shows has no more bits than the slot. -/
lemma lowBits_of_mem_slots (hbits : bits ∣ 8) {value : UInt8} (h : value ∈ slots bits row) :
    lowBits bits value = value := by
  obtain ⟨byte, -, hvalue⟩ := List.mem_flatMap.1 h
  obtain ⟨k, -, rfl⟩ := List.mem_map.1 hvalue
  refine lowBits_of_lt ?_
  rw [toNat_slotValue hbits]
  exact Nat.mod_lt _ (Nat.two_pow_pos bits)

/-- Packing keeps all of what was unpacked. -/
lemma map_lowBits_take_slots (hbits : bits ∣ 8) (width : ℕ) (row : List UInt8) :
    ((slots bits row).take width).map (lowBits bits) = (slots bits row).take width := by
  refine (List.map_congr_left fun value hvalue => ?_).trans (List.map_id _)
  exact lowBits_of_mem_slots hbits (List.mem_of_mem_take hvalue)

/-- A row of just as many bytes as so many values need has a slot for each. -/
lemma le_slots_of_length_eq (hbits : bits ∣ 8) (hrow : row.length = (width * bits + 7) / 8) :
    width ≤ row.length * slotsPerByte bits := by
  rw [hrow]
  exact le_mul_slotsPerByte hbits width

/-- **A row that is packed again** keeps the bits of its values.  The others are zero. -/
theorem bit?_packRow_take_slots (hbits : bits ∣ 8) (hrow : row.length = (width * bits + 7) / 8)
    (j : ℕ) :
    bit? (packRow bits ((slots bits row).take width)) j
      = (bit? row j).map (decide (j < width * bits) && ·) := by
  have hcount := length_take_slots (le_slots_of_length_eq hbits hrow)
  have hlength : (packRow bits ((slots bits row).take width)).length = row.length := by
    rw [length_packRow hbits, hcount, hrow]
  rcases Nat.lt_or_ge j (width * bits) with hvalue | hbehind
  · -- a bit of a value: the slot that shows it is the same in both rows
    have hslot : j / bits < width := (Nat.div_lt_iff_lt_mul (bits_pos hbits)).2 hvalue
    obtain ⟨pad, -, hslots⟩ := slots_packRow hbits ((slots bits row).take width)
    have hsame : (slots bits (packRow bits ((slots bits row).take width)))[j / bits]?
        = (slots bits row)[j / bits]? := by
      rw [hslots, map_lowBits_take_slots hbits, List.getElem?_append_left (by rwa [hcount]),
        List.getElem?_take_of_lt hslot]
    rw [bit?, map_testBit_eq hbits, hsame, ← map_testBit_eq hbits, ← bit?, decide_eq_true hvalue]
    simp only [Bool.true_and, Option.map_id']
  · rw [decide_eq_false (Nat.not_lt.2 hbehind)]
    simp only [Bool.false_and]
    rcases Nat.lt_or_ge j (row.length * 8) with hlt | hge
    · obtain ⟨byte, hbyte, hzero⟩ :=
        testBit_packRow_padding (j := j) hbits (by rwa [hcount]) (by rwa [hlength])
      have hj : j / 8 < row.length := Nat.div_lt_of_lt_mul (by omega)
      rw [bit?, hbyte, Option.map_some, hzero, bit?, List.getElem?_eq_getElem hj, Option.map_some,
        Option.map_some]
    · have hj : row.length ≤ j / 8 := (Nat.le_div_iff_mul_le (by decide)).2 hge
      rw [bit?, bit?, List.getElem?_eq_none hj, List.getElem?_eq_none (by rwa [hlength])]
      rfl

/-- **Packing and unpacking values of `bits` bits.** -/
structure Inverse (bits : ℕ) : Prop where
  /-- A packed row is written behind what is there, in as few bytes as its values need, and gives
  them back as far as they fit. -/
  unpacked : ∀ out values : List UInt8, ∃ packed : List UInt8,
    writeRow bits out values = out ++ packed ∧ packed.length = (values.length * bits + 7) / 8 ∧
    unpackRow? bits values.length packed
      = some (values.map fun value => UInt8.ofNat (value.toNat % 2 ^ bits))
  /-- A row of just as many bytes as so many values need gives them, and they give the row back up
  to the padding, which is cleared. -/
  repacked : ∀ (width : ℕ) (row : List UInt8), row.length = (width * bits + 7) / 8 →
    ∃ values : List UInt8, unpackRow? bits width row = some values ∧
      (packRow bits values).length = row.length ∧
      ∀ j, bit? (packRow bits values) j = (bit? row j).map (decide (j < width * bits) && ·)
  /-- Packing can be carried out in bytes: no shift is by less than none or by eight places. -/
  packedInBytes : ∀ values : List UInt8,
    packRowBytes? (.ofNat bits) values = some (packRow bits values)
  /-- So can unpacking, as long as the row has the bytes. -/
  unpackedInBytes : ∀ (width : ℕ) (row : List UInt8),
    unpackRowBytes? (.ofNat bits) width row = unpackRow? bits width row

/-- The widths of values that divide a byte. -/
lemma dvd_eight_of_mem (h : bits ∈ [1, 2, 4, 8]) : bits ∣ 8 := by
  revert bits
  decide

/-- **Packing and unpacking are inverse to each other** as far as they can be. -/
theorem inverse_packing (bits : ℕ) (h : bits ∈ [1, 2, 4, 8]) : Inverse bits := by
  have hbits := dvd_eight_of_mem h
  exact {
    unpacked := by
      intro out values
      refine ⟨packRow bits values, rfl, length_packRow hbits values, ?_⟩
      rw [unpackRow?_packRow hbits, ← Nat.one_shiftLeft]
      rfl
    repacked := by
      intro width row hrow
      have hwidth := le_slots_of_length_eq hbits hrow
      refine ⟨_, unpackRow?_eq hwidth, ?_, bit?_packRow_take_slots hbits hrow⟩
      rw [length_packRow hbits, length_take_slots hwidth, hrow]
    packedInBytes := packRowBytes?_eq hbits
    unpackedInBytes := unpackRowBytes?_eq hbits }

/-- Five values of two bits are packed into two bytes, of which the second has six bits of padding.
A value that does not fit loses its upper bits. -/
theorem inverse_packing_two :
    2 ∈ [1, 2, 4, 8] ∧ packRow 2 [1, 0, 3, 2, 7] = [0b01001110, 0b11000000] ∧ Inverse 2 :=
  ⟨by decide, by decide, inverse_packing 2 (by decide)⟩

end WatchBitmap.BitPacking
