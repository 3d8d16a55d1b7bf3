import Mathlib.Data.List.Basic
import Mathlib.Tactic.Common
import Mathlib.Tactic.Ring
import WatchBitmap.BitPacking
import WatchBitmap.Proofs.Blocks

/-!
# Packed rows, slot by slot

A packed row is read through its slots: `slots bits row` lists the values of all of them, byte by
byte.  The packer works on one byte at a time, and what it maintains is that the slots behind the
current one are still empty (`Underway`).  From that invariant the slots of a packed row follow by
one induction.

* `slots_packRow` — **the slots of a packed row** are the values' low bits and then nothing but
  zeros, fewer of them than a byte has slots.
* `length_packRow`, `unpackRow?_packRow` — the row is as short as it can be, and unpacking gives
  the low bits back.
* `shiftRight_and_packRow`, `testBit_packRow_padding` — random access: a value by its position in
  the row, and the bits behind the last one.
-/

namespace WatchBitmap.BitPacking

variable {bits byte slot : ℕ}

/-- What a slot keeps of a value. -/
def lowBits (bits : ℕ) (value : UInt8) : UInt8 :=
  UInt8.ofNat (value.toNat % (1 <<< bits))

lemma bits_le (hbits : bits ∣ 8) : bits ≤ 8 :=
  Nat.le_of_dvd (by decide) hbits

lemma bits_pos (hbits : bits ∣ 8) : 0 < bits :=
  Nat.pos_of_dvd_of_pos hbits (by decide)

/-- The slots of a byte take all its bits. -/
lemma bits_mul_slotsPerByte (hbits : bits ∣ 8) : bits * slotsPerByte bits = 8 :=
  Nat.mul_div_cancel' hbits

lemma slotsPerByte_pos (hbits : bits ∣ 8) : 0 < slotsPerByte bits :=
  Nat.div_pos (bits_le hbits) (bits_pos hbits)

lemma toNat_ofNat_mod (hbits : bits ∣ 8) (n : ℕ) :
    (UInt8.ofNat (n % 2 ^ bits)).toNat = n % 2 ^ bits := by
  have hlt : n % 2 ^ bits < 2 ^ bits := Nat.mod_lt n (Nat.two_pow_pos bits)
  have hle : 2 ^ bits ≤ 2 ^ 8 := Nat.pow_le_pow_right (by decide) (bits_le hbits)
  rw [UInt8.toNat_ofNat', Nat.mod_eq_of_lt (by omega)]

lemma toNat_lowBits (hbits : bits ∣ 8) (value : UInt8) :
    (lowBits bits value).toNat = value.toNat % 2 ^ bits := by
  rw [lowBits, Nat.one_shiftLeft, toNat_ofNat_mod hbits]

/-- A value of no more than `bits` bits is kept as it is. -/
lemma lowBits_of_lt {value : UInt8} (h : value.toNat < 2 ^ bits) : lowBits bits value = value := by
  rw [lowBits, Nat.one_shiftLeft, Nat.mod_eq_of_lt h]
  exact UInt8.ofNat_toNat

/-! ## The byte under way -/

/-- **The packer's invariant.**  Slots before `slot` hold values, those from it on are empty. -/
structure Underway (bits byte slot : ℕ) : Prop where
  slot_lt : slot < slotsPerByte bits
  byte_lt : byte < 256
  dvd : 2 ^ (8 - bits * slot) ∣ byte

lemma Underway.empty (hbits : bits ∣ 8) : Underway bits 0 0 where
  slot_lt := slotsPerByte_pos hbits
  byte_lt := by decide
  dvd := Nat.dvd_zero _

/-- The slots of a byte lie side by side: from slot `slot` to the end there are the bits of the
slot itself and those behind it. -/
lemma slotShift_add (hbits : bits ∣ 8) (hslot : slot < slotsPerByte bits) :
    slotShift bits slot + bits = 8 - bits * slot := by
  have hle : bits * (slot + 1) ≤ bits * slotsPerByte bits := Nat.mul_le_mul_left bits hslot
  rw [bits_mul_slotsPerByte hbits, Nat.mul_succ] at hle
  rw [slotShift, Nat.mul_succ]
  omega

/-- The slot `n` places further up lies `n` times as many bits up. -/
lemma slotShift_eq_add (hbits : bits ∣ 8) {k n : ℕ} (hslot : k + n < slotsPerByte bits) :
    slotShift bits k = slotShift bits (k + n) + bits * n := by
  have hle : bits * (k + n + 1) ≤ bits * slotsPerByte bits := Nat.mul_le_mul_left bits hslot
  have hsplit : bits * (k + n + 1) = bits * (k + 1) + bits * n := by ring
  rw [bits_mul_slotsPerByte hbits] at hle
  rw [slotShift, slotShift]
  omega

/-- A byte under way with one value more, as a numeral: what was there, then the value, then
empty slots. -/
lemma Underway.add_place (hbits : bits ∣ 8) (h : Underway bits byte slot) (value : UInt8) :
    ∃ q, byte = q * 2 ^ bits * 2 ^ slotShift bits slot ∧
      byte + place bits slot value
        = (q * 2 ^ bits + value.toNat % 2 ^ bits) * 2 ^ slotShift bits slot := by
  obtain ⟨q, hq⟩ := h.dvd
  have hbyte : byte = q * 2 ^ bits * 2 ^ slotShift bits slot := by
    rw [hq, ← slotShift_add hbits h.slot_lt, pow_add]
    ring
  refine ⟨q, hbyte, ?_⟩
  rw [place, Nat.shiftLeft_eq, Nat.one_shiftLeft, Nat.add_mul, ← hbyte]

lemma Underway.add_place_lt (hbits : bits ∣ 8) (h : Underway bits byte slot) (value : UInt8) :
    byte + place bits slot value < 256 := by
  obtain ⟨q, hbyte, hnew⟩ := h.add_place hbits value
  have hmod : value.toNat % 2 ^ bits < 2 ^ bits := Nat.mod_lt _ (Nat.two_pow_pos bits)
  have hshift : bits * slot + (bits + slotShift bits slot) = 8 := by
    have hle : bits * slot ≤ bits * slotsPerByte bits := Nat.mul_le_mul_left bits h.slot_lt.le
    rw [bits_mul_slotsPerByte hbits] at hle
    have := slotShift_add hbits h.slot_lt
    omega
  have hpow : 2 ^ (bits * slot) * (2 ^ bits * 2 ^ slotShift bits slot) = 256 := by
    rw [← pow_add, ← pow_add, hshift]
    decide
  -- the byte is a multiple of what one empty slot more would weigh, so it stays that far below 256
  have hq : q < 2 ^ (bits * slot) := by
    by_contra hge
    have hle := Nat.mul_le_mul_right (2 ^ bits * 2 ^ slotShift bits slot) (Nat.le_of_not_lt hge)
    rw [hpow, ← Nat.mul_assoc, ← hbyte] at hle
    exact absurd h.byte_lt (Nat.not_lt.2 hle)
  calc byte + place bits slot value
      = (q * 2 ^ bits + value.toNat % 2 ^ bits) * 2 ^ slotShift bits slot := hnew
    _ < (q + 1) * 2 ^ bits * 2 ^ slotShift bits slot := by
        refine Nat.mul_lt_mul_of_pos_right ?_ (Nat.two_pow_pos _)
        rw [Nat.succ_mul]
        omega
    _ ≤ 2 ^ (bits * slot) * 2 ^ bits * 2 ^ slotShift bits slot :=
        Nat.mul_le_mul_right _ (Nat.mul_le_mul_right _ hq)
    _ = 256 := by rw [Nat.mul_assoc, hpow]

/-- **The packer's step** keeps its invariant as long as the byte has another slot. -/
lemma Underway.step (hbits : bits ∣ 8) (h : Underway bits byte slot)
    (hroom : slot + 1 < slotsPerByte bits) (value : UInt8) :
    Underway bits (byte + place bits slot value) (slot + 1) where
  slot_lt := hroom
  byte_lt := h.add_place_lt hbits value
  dvd := by
    obtain ⟨q, -, hnew⟩ := h.add_place hbits value
    rw [hnew]
    exact Nat.dvd_mul_left _ _

/-! ## The slots of packed rows -/

/-- The values of all slots, byte by byte. -/
def slots (bits : ℕ) (row : List UInt8) : List UInt8 :=
  row.flatMap (unpackByte bits)

/-- The values that are in the slots before `slot` of a byte under way. -/
def filled (bits byte slot : ℕ) : List UInt8 :=
  (List.range slot).map fun k => slotValue bits k (UInt8.ofNat byte)

@[simp] lemma length_unpackByte (bits : ℕ) (byte : UInt8) :
    (unpackByte bits byte).length = slotsPerByte bits := by
  rw [unpackByte, List.length_map, List.length_range]

lemma length_slots (bits : ℕ) (row : List UInt8) :
    (slots bits row).length = row.length * slotsPerByte bits :=
  length_flatMap_blocks fun byte _ => length_unpackByte bits byte

lemma slotValue_ofNat {n : ℕ} (hn : n < 256) (k : ℕ) :
    slotValue bits k (UInt8.ofNat n) = UInt8.ofNat (n / 2 ^ slotShift bits k % 2 ^ bits) := by
  rw [slotValue, UInt8.toNat_ofNat', Nat.mod_eq_of_lt hn, Nat.shiftRight_eq_div_pow,
    Nat.one_shiftLeft]

/-- The slot that a value is put into holds its low bits. -/
lemma Underway.slotValue_place (hbits : bits ∣ 8) (h : Underway bits byte slot) (value : UInt8) :
    slotValue bits slot (UInt8.ofNat (byte + place bits slot value)) = lowBits bits value := by
  obtain ⟨q, -, hnew⟩ := h.add_place hbits value
  rw [slotValue_ofNat (h.add_place_lt hbits value), hnew,
    Nat.mul_div_cancel _ (Nat.two_pow_pos _), Nat.mul_comm q, Nat.mul_add_mod, Nat.mod_mod,
    lowBits, Nat.one_shiftLeft]

lemma Underway.slotValue_place_of_lt (hbits : bits ∣ 8) (h : Underway bits byte slot)
    (value : UInt8) {k : ℕ} (hk : k < slot) :
    slotValue bits k (UInt8.ofNat (byte + place bits slot value))
      = slotValue bits k (UInt8.ofNat byte) := by
  obtain ⟨q, hbyte, hnew⟩ := h.add_place hbits value
  obtain ⟨n, rfl⟩ : ∃ n, slot = k + (n + 1) := Nat.exists_eq_add_of_lt hk
  have hmod : value.toNat % 2 ^ bits < 2 ^ bits := Nat.mod_lt _ (Nat.two_pow_pos bits)
  -- seen from an earlier slot, the last `bits` bits above the current shift do not matter
  have hshift : 2 ^ slotShift bits k
      = 2 ^ slotShift bits (k + (n + 1)) * 2 ^ bits * 2 ^ (bits * n) := by
    rw [slotShift_eq_add hbits h.slot_lt, Nat.mul_succ, pow_add, pow_add]
    ring
  have hsees : ∀ d, d < 2 ^ bits →
      (q * 2 ^ bits + d) * 2 ^ slotShift bits (k + (n + 1)) / 2 ^ slotShift bits k
        = q / 2 ^ (bits * n) := by
    intro d hd
    rw [hshift, ← Nat.div_div_eq_div_mul, ← Nat.div_div_eq_div_mul,
      Nat.mul_div_cancel _ (Nat.two_pow_pos _), Nat.mul_comm q,
      Nat.mul_add_div (Nat.two_pow_pos bits), Nat.div_eq_of_lt hd, Nat.add_zero]
  have hold := hsees 0 (Nat.two_pow_pos bits)
  rw [Nat.add_zero, ← hbyte] at hold
  rw [slotValue_ofNat (h.add_place_lt hbits value), slotValue_ofNat h.byte_lt, hnew,
    hsees _ hmod, hold]

/-- The slots that are not filled yet are empty. -/
lemma Underway.slotValue_eq_zero (hbits : bits ∣ 8) (h : Underway bits byte slot) {k : ℕ}
    (hk : slot ≤ k) (hlt : k < slotsPerByte bits) : slotValue bits k (UInt8.ofNat byte) = 0 := by
  obtain ⟨n, rfl⟩ := Nat.exists_eq_add_of_le hk
  obtain ⟨q, hq⟩ := h.dvd
  have hbyte : byte = 2 ^ slotShift bits (slot + n) * (2 ^ bits * (2 ^ (bits * n) * q)) := by
    rw [hq, ← slotShift_add hbits h.slot_lt, slotShift_eq_add hbits hlt, pow_add, pow_add]
    ring
  rw [slotValue_ofNat h.byte_lt, hbyte, Nat.mul_div_cancel_left _ (Nat.two_pow_pos _),
    Nat.mul_mod_right]
  rfl

/-- All slots of a byte under way: the filled ones, then empty ones. -/
lemma Underway.unpackByte_eq (hbits : bits ∣ 8) (h : Underway bits byte slot) :
    unpackByte bits (UInt8.ofNat byte)
      = filled bits byte slot ++ List.replicate (slotsPerByte bits - slot) 0 := by
  have hsplit : slotsPerByte bits = slot + (slotsPerByte bits - slot) := by
    have := h.slot_lt
    omega
  have hzero : ∀ k ∈ List.range (slotsPerByte bits - slot),
      slotValue bits (slot + k) (UInt8.ofNat byte) = 0 := by
    intro k hk
    rw [List.mem_range] at hk
    exact h.slotValue_eq_zero hbits (Nat.le_add_right slot k) (by omega)
  rw [unpackByte, hsplit, List.range_add, List.map_append, List.map_map, filled, ← hsplit]
  congr 1
  calc (List.range (slotsPerByte bits - slot)).map _
      = (List.range (slotsPerByte bits - slot)).map fun _ => 0 := List.map_congr_left hzero
    _ = List.replicate (slotsPerByte bits - slot) 0 := by
        rw [List.map_const', List.length_range]

lemma Underway.filled_place (hbits : bits ∣ 8) (h : Underway bits byte slot) (value : UInt8) :
    filled bits (byte + place bits slot value) (slot + 1)
      = filled bits byte slot ++ [lowBits bits value] := by
  have hbefore : ∀ k ∈ List.range slot,
      slotValue bits k (UInt8.ofNat (byte + place bits slot value))
        = slotValue bits k (UInt8.ofNat byte) := by
    intro k hk
    exact h.slotValue_place_of_lt hbits value (List.mem_range.1 hk)
  rw [filled, List.range_succ, List.map_append, List.map_congr_left hbefore, List.map_singleton,
    h.slotValue_place hbits value, filled]

/-- What the packer makes of a byte under way and the values still to come.  The induction is on
these values; the invariant says what the byte has taken up so far. -/
lemma slots_packFrom (hbits : bits ∣ 8) (values : List UInt8) (h : Underway bits byte slot) :
    ∃ pad < slotsPerByte bits, slots bits (packFrom bits byte slot values)
      = filled bits byte slot ++ values.map (lowBits bits) ++ List.replicate pad 0 := by
  induction values generalizing byte slot with
  | nil =>
      rw [packFrom]
      by_cases hslot : slot = 0
      · subst hslot
        exact ⟨0, h.slot_lt, rfl⟩
      · refine ⟨slotsPerByte bits - slot, by have := h.slot_lt; omega, ?_⟩
        rw [if_neg hslot, slots, List.flatMap_singleton, h.unpackByte_eq hbits, List.map_nil,
          List.append_nil]
  | cons value values ih =>
      rw [packFrom]
      by_cases hroom : slot + 1 < slotsPerByte bits
      · obtain ⟨pad, hpad, hslots⟩ := ih (h.step hbits hroom value)
        refine ⟨pad, hpad, ?_⟩
        rw [if_pos hroom, hslots, h.filled_place hbits value, List.map_cons]
        simp only [List.append_assoc, List.cons_append, List.nil_append]
      · obtain ⟨pad, hpad, hslots⟩ := ih (Underway.empty hbits)
        refine ⟨pad, hpad, ?_⟩
        have hlast : slot + 1 = slotsPerByte bits := by
          have := h.slot_lt
          omega
        have hbyte : unpackByte bits (UInt8.ofNat (byte + place bits slot value))
            = filled bits byte slot ++ [lowBits bits value] := by
          rw [← h.filled_place hbits value, hlast]
          rfl
        rw [if_neg hroom, slots, List.flatMap_cons, hbyte, ← slots, hslots, List.map_cons]
        simp only [filled, List.range_zero, List.map_nil, List.append_assoc, List.cons_append,
          List.nil_append]

/-- **The slots of a packed row** are the low bits of its values, and then zeros up to the end of
the last byte. -/
theorem slots_packRow (hbits : bits ∣ 8) (values : List UInt8) :
    ∃ pad < slotsPerByte bits, slots bits (packRow bits values)
      = values.map (lowBits bits) ++ List.replicate pad 0 :=
  slots_packFrom hbits values (Underway.empty hbits)

/-- What the row's length has to do with its slots: there are the values and the padding. -/
lemma slots_count (hbits : bits ∣ 8) (values : List UInt8) :
    ∃ pad < slotsPerByte bits,
      (packRow bits values).length * slotsPerByte bits = values.length + pad := by
  obtain ⟨pad, hpad, hslots⟩ := slots_packRow hbits values
  refine ⟨pad, hpad, ?_⟩
  have hlen := congrArg List.length hslots
  rwa [length_slots, List.length_append, List.length_map, List.length_replicate] at hlen

/-- **A packed row takes as few bytes as its values need.** -/
theorem length_packRow (hbits : bits ∣ 8) (values : List UInt8) :
    (packRow bits values).length = (values.length * bits + 7) / 8 := by
  obtain ⟨pad, hpad, hcount⟩ := slots_count hbits values
  have hwhole := bits_mul_slotsPerByte hbits
  have hpos := bits_pos hbits
  have htotal : (packRow bits values).length * 8 = values.length * bits + pad * bits := by
    rw [← Nat.add_mul, ← hcount, Nat.mul_assoc, Nat.mul_comm (slotsPerByte bits), hwhole]
  have hpadding : (pad + 1) * bits ≤ slotsPerByte bits * bits := Nat.mul_le_mul_right bits hpad
  rw [Nat.mul_comm (slotsPerByte bits), hwhole, Nat.succ_mul] at hpadding
  omega

/-- Unpacking looks at the slots of a row, if there are enough of them. -/
lemma unpackRow?_eq {width : ℕ} {row : List UInt8} (h : width ≤ row.length * slotsPerByte bits) :
    unpackRow? bits width row = some ((slots bits row).take width) := by
  rw [unpackRow?, if_pos h, slots]

lemma length_take_slots {width : ℕ} {row : List UInt8}
    (h : width ≤ row.length * slotsPerByte bits) :
    ((slots bits row).take width).length = width := by
  rw [List.length_take, length_slots, Nat.min_eq_left h]

/-- A row of as many bytes as its values need has a slot for each. -/
lemma le_mul_slotsPerByte (hbits : bits ∣ 8) (width : ℕ) :
    width ≤ (width * bits + 7) / 8 * slotsPerByte bits := by
  have hwhole : (width * bits + 7) / 8 * slotsPerByte bits * bits = (width * bits + 7) / 8 * 8 := by
    rw [Nat.mul_assoc, Nat.mul_comm (slotsPerByte bits), bits_mul_slotsPerByte hbits]
  refine Nat.le_of_mul_le_mul_right ?_ (bits_pos hbits)
  rw [hwhole]
  omega

/-- **Unpacking** gives the values back, as far as they fit their slots. -/
theorem unpackRow?_packRow (hbits : bits ∣ 8) (values : List UInt8) :
    unpackRow? bits values.length (packRow bits values) = some (values.map (lowBits bits)) := by
  obtain ⟨pad, -, hcount⟩ := slots_count hbits values
  obtain ⟨pad', -, hslots⟩ := slots_packRow hbits values
  rw [unpackRow?_eq (by omega), hslots, List.take_left' (List.length_map _)]

/-! ## Random access -/

/-- A slot by its number: which byte it is in, and which slot of that byte it is. -/
lemma getElem?_slots (hbits : bits ∣ 8) (row : List UInt8) (i : ℕ) :
    (slots bits row)[i]?
      = row[i / slotsPerByte bits]?.map (slotValue bits (i % slotsPerByte bits)) := by
  have hlt : i % slotsPerByte bits < slotsPerByte bits := Nat.mod_lt i (slotsPerByte_pos hbits)
  have hbyte : ∀ byte : UInt8, (unpackByte bits byte)[i % slotsPerByte bits]?
      = some (slotValue bits (i % slotsPerByte bits) byte) := by
    intro byte
    rw [unpackByte, List.getElem?_map, List.getElem?_range hlt, Option.map_some]
  have hblock : (row.flatMap (unpackByte bits))[i]?
      = row[i / slotsPerByte bits]?.bind fun byte =>
          (unpackByte bits byte)[i % slotsPerByte bits]? := by
    rw [← getElem?_flatMap_blocks (fun byte _ => length_unpackByte bits byte) _ hlt,
      Nat.div_add_mod']
  rw [slots, hblock]
  cases row[i / slotsPerByte bits]? with
  | none => rfl
  | some byte => rw [Option.bind_some, hbyte, Option.map_some]

lemma toNat_slotValue (hbits : bits ∣ 8) (k : ℕ) (byte : UInt8) :
    (slotValue bits k byte).toNat = byte.toNat >>> slotShift bits k % 2 ^ bits := by
  rw [slotValue, Nat.one_shiftLeft, toNat_ofNat_mod hbits]

/-- The byte in which the value at position `x` begins. -/
lemma mul_bits_div (hbits : bits ∣ 8) (x : ℕ) : x * bits / 8 = x / slotsPerByte bits := by
  rw [← bits_mul_slotsPerByte hbits, Nat.mul_comm bits,
    Nat.mul_div_mul_right _ _ (bits_pos hbits)]

/-- Where in its byte the value at position `x` begins. -/
lemma mul_bits_mod (hbits : bits ∣ 8) (x : ℕ) :
    x * bits % 8 = x % slotsPerByte bits * bits := by
  rw [← bits_mul_slotsPerByte hbits, Nat.mul_comm bits, Nat.mul_mod_mul_right]

/-- How far the value at position `x` lies above the lowest bit of its byte. -/
lemma sub_mul_bits_mod (hbits : bits ∣ 8) (x : ℕ) :
    8 - bits - x * bits % 8 = slotShift bits (x % slotsPerByte bits) := by
  rw [mul_bits_mod hbits, slotShift, Nat.mul_succ, Nat.mul_comm bits]
  omega

/-- The bits of a value all lie in one byte. -/
lemma mul_bits_mod_add_le (hbits : bits ∣ 8) (x : ℕ) : x * bits % 8 + bits ≤ 8 := by
  have hle := Nat.mul_le_mul_right bits (Nat.mod_lt x (slotsPerByte_pos hbits))
  rwa [Nat.mul_comm (slotsPerByte bits), bits_mul_slotsPerByte hbits, Nat.succ_mul,
    ← mul_bits_mod hbits] at hle

/-- **A value by its position.**  The value at `x` is read from the byte at `x * bits / 8` with one
shift and one mask. -/
theorem shiftRight_and_packRow (hbits : bits ∣ 8) {values : List UInt8} {x : ℕ} {value : UInt8}
    (hvalue : values[x]? = some value) :
    ∃ byte, (packRow bits values)[x * bits / 8]? = some byte ∧
      (byte.toNat >>> (8 - bits - x * bits % 8)) &&& (2 ^ bits - 1) = value.toNat % 2 ^ bits := by
  obtain ⟨pad, -, hslots⟩ := slots_packRow hbits values
  have hx : x < values.length := (List.getElem?_eq_some_iff.1 hvalue).1
  have hslot : (slots bits (packRow bits values))[x]? = some (lowBits bits value) := by
    rw [hslots, List.getElem?_append_left (by rwa [List.length_map]), List.getElem?_map, hvalue,
      Option.map_some]
  rw [getElem?_slots hbits, Option.map_eq_some_iff] at hslot
  obtain ⟨byte, hbyte, hlow⟩ := hslot
  refine ⟨byte, by rw [mul_bits_div hbits, hbyte], ?_⟩
  rw [sub_mul_bits_mod hbits, Nat.and_two_pow_sub_one_eq_mod, ← toNat_slotValue hbits, hlow,
    toNat_lowBits hbits]

/-- **A bit by the slot that shows it.**  Bit `j` of a row counts from the most significant bit of
its first byte, and so does a bit of a slot from its highest. -/
lemma map_testBit_eq (hbits : bits ∣ 8) (row : List UInt8) (j : ℕ) :
    (row[j / 8]?.map fun byte => byte.toNat.testBit (7 - j % 8))
      = (slots bits row)[j / bits]?.map fun value =>
          value.toNat.testBit (bits - 1 - j % bits) := by
  have hpos := bits_pos hbits
  have hwhole := bits_mul_slotsPerByte hbits
  rw [getElem?_slots hbits, Nat.div_div_eq_div_mul, hwhole, Option.map_map]
  congr 1
  funext byte
  set k := j / bits % slotsPerByte bits with hk
  have hjmod : j % 8 = j % bits + bits * k := by rw [← hwhole, Nat.mod_mul]
  have hjlt : j % bits < bits := Nat.mod_lt j hpos
  have hshift := slotShift_add hbits (Nat.mod_lt (j / bits) (slotsPerByte_pos hbits))
  rw [← hk] at hshift
  have hplace : 7 - j % 8 = slotShift bits k + (bits - 1 - j % bits) := by omega
  rw [Function.comp_apply, toNat_slotValue hbits, Nat.testBit_mod_two_pow,
    decide_eq_true (by omega : bits - 1 - j % bits < bits), Bool.true_and, Nat.testBit_shiftRight,
    hplace]

/-- **Padding.**  The bits of a packed row that lie behind its last value are zero. -/
theorem testBit_packRow_padding (hbits : bits ∣ 8) {values : List UInt8} {j : ℕ}
    (hbehind : values.length * bits ≤ j) (hj : j < (packRow bits values).length * 8) :
    ∃ byte, (packRow bits values)[j / 8]? = some byte ∧
      byte.toNat.testBit (7 - j % 8) = false := by
  obtain ⟨pad, -, hslots⟩ := slots_packRow hbits values
  have hpos := bits_pos hbits
  have hlen := congrArg List.length hslots
  rw [length_slots, List.length_append, List.length_map, List.length_replicate] at hlen
  have hle : values.length ≤ j / bits := (Nat.le_div_iff_mul_le hpos).2 hbehind
  have hlt : j / bits < values.length + pad := by
    rw [Nat.div_lt_iff_lt_mul hpos, ← hlen, Nat.mul_assoc, Nat.mul_comm (slotsPerByte bits),
      bits_mul_slotsPerByte hbits]
    exact hj
  have hslot : (slots bits (packRow bits values))[j / bits]? = some 0 := by
    rw [hslots, List.getElem?_append_right (by rwa [List.length_map]), List.length_map,
      List.getElem?_replicate, if_pos (by omega)]
  -- the bit is one of those that the slot shows, and the slot shows zero
  have hbit := map_testBit_eq hbits (packRow bits values) j
  rw [hslot, Option.map_some, UInt8.toNat_zero, Nat.zero_testBit, Option.map_eq_some_iff] at hbit
  exact hbit

end WatchBitmap.BitPacking
