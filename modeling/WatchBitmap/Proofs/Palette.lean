import Mathlib.Data.Finset.Card
import Mathlib.Data.Finset.Dedup
import Mathlib.Data.List.Basic
import Mathlib.Tactic.Common
import WatchBitmap.Palette
import WatchBitmap.PixelBuffer

/-!
# Palettes list colors in the order in which they are first seen

`firstSeen` is the palette as one would define it without a scan: the key's color, then those of
the picture, each where it occurs first.  The scan meets the colors one by one, and what it
maintains is that the palette holds exactly the colors met so far (`Palette.Holds`).

* `getElem?_firstSeen_eq_color_iff`, `idxOf_firstSeen_eq_zero_iff` — the key's color is in front and
  nowhere else, and no other color is there.
* `distinctColors_le_length` — a table that has all the colors has at least as many entries.
* `Palette.entries_collect` — **a collected palette is the front of that list**, cut one behind the
  limit.
* `Palette.slotOf?_collect` — the way back from a color to its index leads to the entry.
* `Palette.indexOf?_collect` — within the limit each color has an index.
* `Palette.ListsFirstSeen`, `Palette.listsFirstSeen_collect` — **the scan of a picture against the
  definition.**
-/

namespace WatchBitmap

/-- One element more adds itself to the list without repetitions, unless it is there. -/
lemma eraseDups_concat {α : Type} [DecidableEq α] (xs : List α) (a : α) :
    (xs ++ [a]).eraseDups = if a ∈ xs then xs.eraseDups else xs.eraseDups ++ [a] := by
  rw [List.eraseDups_append, List.cons_removeAll]
  by_cases ha : a ∈ xs
  · simp [ha]
  · simp [ha, List.eraseDups_cons]

/-- An element of a list with one element more is an old one or the last. -/
lemma getElem?_concat_eq_some_iff {α : Type} {xs : List α} {a b : α} {i : ℕ} :
    (xs ++ [a])[i]? = some b ↔ xs[i]? = some b ∨ i = xs.length ∧ a = b := by
  rcases Nat.lt_trichotomy i xs.length with hi | rfl | hi
  · rw [List.getElem?_append_left hi]
    simp [Nat.ne_of_lt hi]
  · simp
  · rw [List.getElem?_append_right hi.le, List.getElem?_eq_none hi.le,
      List.getElem?_eq_none (by rw [List.length_singleton]; omega)]
    simp [Nat.ne_of_gt hi]

/-- In the list without repetitions nothing occurs twice. -/
lemma nodup_eraseDups {α : Type} [DecidableEq α] (xs : List α) : xs.eraseDups.Nodup := by
  induction xs using List.reverseRecOn with
  | nil => exact List.nodup_nil
  | append_singleton xs a ih =>
      rw [eraseDups_concat]
      split_ifs with ha
      · exact ih
      · rw [← List.concat_eq_append]
        exact ih.concat (by rwa [List.mem_eraseDups])

/-- The list without repetitions keeps the order in which elements occur first. -/
lemma pairwise_idxOf_eraseDups {α : Type} [DecidableEq α] (xs : List α) :
    xs.eraseDups.Pairwise fun a b => xs.idxOf a < xs.idxOf b := by
  induction xs using List.reverseRecOn with
  | nil => exact List.Pairwise.nil
  | append_singleton xs a ih =>
      have hold : ∀ b ∈ xs.eraseDups, (xs ++ [a]).idxOf b = xs.idxOf b := by
        intro b hb
        exact List.idxOf_append_of_mem (List.mem_eraseDups.1 hb)
      have hkept : xs.eraseDups.Pairwise fun b c => (xs ++ [a]).idxOf b < (xs ++ [a]).idxOf c := by
        refine ih.imp_of_mem ?_
        intro b c hb hc hlt
        rwa [hold b hb, hold c hc]
      rw [eraseDups_concat]
      split_ifs with ha
      · exact hkept
      · -- the new element occurs behind all others
        rw [List.pairwise_append]
        refine ⟨hkept, List.pairwise_singleton _ _, ?_⟩
        intro b hb c hc
        obtain rfl := List.mem_singleton.1 hc
        rw [hold b hb, List.idxOf_append_of_notMem ha, List.idxOf_cons_self]
        exact List.idxOf_lt_length_of_mem (List.mem_eraseDups.1 hb)

/-- The colors that a key reserves: its own, or none without a key. -/
def keyColors (key : Option ColorKey) : List Color :=
  key.toList.map ColorKey.color

/-- **The colors of a picture in the order in which they are first seen**, behind the key's. -/
def firstSeen (key : Option ColorKey) (colors : List Color) : List Color :=
  (keyColors key ++ colors).eraseDups

/-- How many colors a picture has, together with the key's. -/
def distinctColors (key : Option ColorKey) (colors : List Color) : ℕ :=
  (keyColors key ++ colors).toFinset.card

lemma mem_firstSeen {key : Option ColorKey} {colors : List Color} {c : Color} :
    c ∈ firstSeen key colors ↔ c ∈ keyColors key ++ colors :=
  List.mem_eraseDups

lemma nodup_firstSeen (key : Option ColorKey) (colors : List Color) :
    (firstSeen key colors).Nodup :=
  nodup_eraseDups _

/-- Each color is listed once. -/
lemma length_firstSeen (key : Option ColorKey) (colors : List Color) :
    (firstSeen key colors).length = distinctColors key colors := by
  rw [distinctColors, ← List.toFinset_card_of_nodup (nodup_firstSeen key colors)]
  congr 1
  ext c
  rw [List.mem_toFinset, List.mem_toFinset, mem_firstSeen]

/-- Colors that all stand in a table are not more than its entries, of which some may
be the same. -/
lemma distinctColors_le_length {key : Option ColorKey} {colors table : List Color}
    (h : ∀ c ∈ keyColors key ++ colors, c ∈ table) : distinctColors key colors ≤ table.length := by
  have hsubset : (keyColors key ++ colors).toFinset ⊆ table.toFinset := by
    intro c hc
    rw [List.mem_toFinset] at hc ⊢
    exact h c hc
  exact (Finset.card_le_card hsubset).trans (List.toFinset_card_le table)

/-- A key's color is listed first. -/
lemma firstSeen_some (key : ColorKey) (colors : List Color) :
    firstSeen (some key) colors = key.color :: (colors.filter (!· == key.color)).eraseDups := by
  rw [firstSeen, keyColors, Option.toList_some, List.map_singleton, List.singleton_append,
    List.eraseDups_cons]

/-- **The key's color has one place**, the first. -/
lemma getElem?_firstSeen_eq_color_iff (key : ColorKey) (colors : List Color) (k : ℕ) :
    (firstSeen (some key) colors)[k]? = some key.color ↔ k = 0 := by
  have hfront : (firstSeen (some key) colors)[0]? = some key.color := by
    rw [firstSeen_some, List.getElem?_cons_zero]
  constructor
  · intro hentry
    have hlt := (List.getElem?_eq_some_iff.1 hentry).1
    exact (List.getElem?_inj hlt (nodup_firstSeen _ _)).1 (hentry.trans hfront.symm)
  · rintro rfl
    exact hfront

/-- **The first position is the key's color's**, and that of no other color. -/
lemma idxOf_firstSeen_eq_zero_iff (key : ColorKey) (colors : List Color) (c : Color) :
    (firstSeen (some key) colors).idxOf c = 0 ↔ c = key.color := by
  rw [firstSeen_some]
  constructor
  · intro h
    by_contra hne
    rw [List.idxOf_cons_ne _ (Ne.symm hne)] at h
    exact absurd h (Nat.succ_ne_zero _)
  · rintro rfl
    exact List.idxOf_cons_self

namespace Palette

/-! ## The scan -/

/-- **The scan's invariant.**  The entries are the colors that were met, and each color leads back
to its own entry. -/
structure Holds (p : Palette) (seen : List Color) : Prop where
  entries : p.entries = seen.eraseDups
  slotOf? : ∀ c i, p.slotOf? c = some i ↔ p.entries[i]? = some c

lemma Holds.mem_iff {p : Palette} {seen : List Color} (h : p.Holds seen) (c : Color) :
    (p.slotOf? c).isSome ↔ c ∈ seen := by
  rw [Option.isSome_iff_exists, ← List.mem_eraseDups, ← h.entries, List.mem_iff_getElem?]
  exact exists_congr fun i => h.slotOf? c i

lemma empty_holds : empty.Holds [] where
  entries := rfl
  slotOf? := by simp [empty, Palette.slotOf?]

/-- **The scan's step**: one color more has been met. -/
lemma Holds.insert {p : Palette} {seen : List Color} (h : p.Holds seen) (c : Color) :
    (p.insert c).Holds (seen ++ [c]) := by
  rw [Palette.insert]
  split
  · next i hslot =>
      have hc : c ∈ seen := (h.mem_iff c).1 (by rw [hslot, Option.isSome_some])
      refine ⟨?_, h.slotOf?⟩
      rw [eraseDups_concat, if_pos hc, h.entries]
  · next hslot =>
      have hc : c ∉ seen := by
        intro hmem
        have := (h.mem_iff c).2 hmem
        rw [hslot] at this
        exact absurd this (by simp)
      have hnot : ∀ i : ℕ, p.entries[i]? ≠ some c := by
        intro i hi
        exact hc (by rw [← List.mem_eraseDups, ← h.entries]; exact List.mem_of_getElem? hi)
      refine ⟨by rw [eraseDups_concat, if_neg hc, h.entries], ?_⟩
      intro d i
      rw [getElem?_concat_eq_some_iff]
      by_cases hd : d = c
      · subst hd
        have hself : Palette.slotOf? ⟨p.entries ++ [d], (d, p.size) :: p.slots⟩ d = some p.size :=
          List.lookup_cons_self
        rw [hself, Option.some.injEq, size]
        exact ⟨fun hi => Or.inr ⟨hi.symm, rfl⟩, fun hi => (hi.resolve_left (hnot i)).1.symm⟩
      · have hother : Palette.slotOf? ⟨p.entries ++ [c], (c, p.size) :: p.slots⟩ d
            = p.slotOf? d := by
          simp only [Palette.slotOf?, List.lookup_cons, beq_eq_false_iff_ne.2 hd]
        rw [hother, h.slotOf?]
        exact ⟨Or.inl, fun hi => hi.resolve_right fun hlast => hd hlast.2.symm⟩

lemma ofKey_holds (key : Option ColorKey) : (ofKey key).Holds (keyColors key) := by
  cases key with
  | none => exact empty_holds
  | some key => exact empty_holds.insert key.color

lemma size_ofKey_le (key : Option ColorKey) : (ofKey key).size ≤ 1 := by
  cases key <;> simp [ofKey, insert, slotOf?, empty, size]

/-- **A scan** over more colors.  It holds what it met, and that is enough to have the front of the
whole list without repetitions.  The induction is on the colors still to come. -/
lemma Holds.scan {p : Palette} {seen : List Color} {limit : ℕ} (h : p.Holds seen)
    (hsize : p.size ≤ limit + 1) (cs : List Color) :
    (∃ met, (Palette.scan limit p cs).Holds met) ∧
      (Palette.scan limit p cs).entries = ((seen ++ cs).eraseDups).take (limit + 1) := by
  induction cs generalizing p seen with
  | nil =>
      rw [Palette.scan, List.append_nil, ← h.entries, List.take_of_length_le hsize]
      exact ⟨⟨seen, h⟩, rfl⟩
  | cons c cs ih =>
      rw [Palette.scan]
      split_ifs with hfull
      · have hlen : p.entries.length = limit + 1 := by
          rw [size] at hfull hsize
          omega
        refine ⟨⟨seen, h⟩, ?_⟩
        rw [List.eraseDups_append, ← h.entries, ← hlen, List.take_left]
      · have hinsert := h.insert c
        have hroom : (p.insert c).size ≤ limit + 1 := by
          have hle : (p.insert c).size ≤ p.size + 1 := by
            rw [Palette.insert]
            split <;> simp [size]
          omega
        have hscan := ih hinsert hroom
        rwa [List.append_assoc, List.singleton_append] at hscan

/-! ## Collected palettes -/

variable {key : Option ColorKey} {limit : ℕ} {colors : List Color}

lemma scan_ofKey (key : Option ColorKey) (limit : ℕ) (colors : List Color) :
    (∃ met, (collect key limit colors).Holds met) ∧
      (collect key limit colors).entries = (firstSeen key colors).take (limit + 1) :=
  (ofKey_holds key).scan (Nat.le_trans (size_ofKey_le key) (Nat.le_add_left 1 limit)) colors

/-- **A collected palette** lists the colors as they are first seen, up to one more than the
limit. -/
theorem entries_collect (key : Option ColorKey) (limit : ℕ) (colors : List Color) :
    (collect key limit colors).entries = (firstSeen key colors).take (limit + 1) :=
  (scan_ofKey key limit colors).2

/-- **The way back**: a color has a slot exactly where it is an entry. -/
theorem slotOf?_collect (c : Color) (i : ℕ) :
    (collect key limit colors).slotOf? c = some i
      ↔ (collect key limit colors).entries[i]? = some c := by
  obtain ⟨⟨met, h⟩, -⟩ := scan_ofKey key limit colors
  exact h.slotOf? c i

/-- The scan sees one color too many, and no more. -/
lemma size_collect (key : Option ColorKey) (limit : ℕ) (colors : List Color) :
    (collect key limit colors).size = min (limit + 1) (distinctColors key colors) := by
  rw [size, entries_collect, List.length_take, length_firstSeen]

/-- Within the limit the palette is complete. -/
lemma entries_collect_of_le (hfits : distinctColors key colors ≤ limit) :
    (collect key limit colors).entries = firstSeen key colors := by
  rw [entries_collect, List.take_of_length_le]
  rw [length_firstSeen]
  omega

/-- **Within the limit every color has an index**, its position in the order of first sight. -/
theorem indexOf?_collect (hfits : distinctColors key colors ≤ limit) {c : Color}
    (hc : c ∈ firstSeen key colors) :
    (collect key limit colors).indexOf? c
      = some (UInt8.ofNat ((firstSeen key colors).idxOf c)) := by
  have hslot : (collect key limit colors).slotOf? c = some ((firstSeen key colors).idxOf c) := by
    rw [slotOf?_collect, entries_collect_of_le hfits]
    exact List.getElem?_idxOf hc
  rw [indexOf?, hslot, Option.map_some]

/-- **A palette as it is defined**: what a scan of a picture should come to, told by the order in
which colors are first seen.  That order is the one of the key's color and then the pixels, row by
row. -/
structure ListsFirstSeen (b : PixelBuffer) (key : Option ColorKey) (limit : ℕ) (p : Palette) :
    Prop where
  /-- The key's color and those of all pixels are seen, and no others. -/
  seen : ∀ c, c ∈ firstSeen key b.colors ↔
    c ∈ keyColors key ∨ ∃ i < b.width.toNat * b.height.toNat, b.colorAt? i = some c
  nodup : (firstSeen key b.colors).Nodup
  order : (firstSeen key b.colors).Pairwise fun c d =>
    (keyColors key ++ b.colors).idxOf c < (keyColors key ++ b.colors).idxOf d
  /-- Of these the palette has one more than the limit, or all if they are fewer. -/
  entries : p.entries
    = (firstSeen key b.colors).take (min (limit + 1) (firstSeen key b.colors).length)
  /-- A color leads to its entry, and what is no entry leads nowhere. -/
  slot : ∀ c i, p.slotOf? c = some i ↔ p.entries[i]? = some c
  /-- If the limit is kept and an index is a byte, each pixel has the index of its color. -/
  index : distinctColors key b.colors ≤ limit → distinctColors key b.colors ≤ 256 →
    ∀ i < b.width.toNat * b.height.toNat, ∃ c index, b.colorAt? i = some c ∧
      p.indexOf? c = some index ∧ p.entries[index.toNat]? = some c

/-- The colors of a picture are those of its pixels. -/
lemma mem_colors_iff (b : PixelBuffer) (c : Color) :
    c ∈ b.colors ↔ ∃ i < b.width.toNat * b.height.toNat, b.colorAt? i = some c := by
  rw [List.mem_iff_getElem?]
  constructor
  · rintro ⟨i, hi⟩
    have hlt := (List.getElem?_eq_some_iff.1 hi).1
    rw [b.length_colors] at hlt
    exact ⟨i, hlt, by rw [← b.getElem?_colors, hi]⟩
  · rintro ⟨i, -, hi⟩
    exact ⟨i, by rw [b.getElem?_colors, hi]⟩

/-- An index of a palette that is complete and has an index for each entry leads back
to the color. -/
lemma getElem?_entries_of_indexOf? (hfits : distinctColors key colors ≤ limit)
    (hbyte : distinctColors key colors ≤ 256) {c : Color} (hc : c ∈ firstSeen key colors) :
    ∃ index, (collect key limit colors).indexOf? c = some index ∧
      (collect key limit colors).entries[index.toNat]? = some c := by
  have hlt := List.idxOf_lt_length_of_mem hc
  rw [length_firstSeen] at hlt
  refine ⟨_, indexOf?_collect hfits hc, ?_⟩
  rw [entries_collect_of_le hfits, UInt8.toNat_ofNat_of_lt' (Nat.lt_of_lt_of_le hlt hbyte)]
  exact List.getElem?_idxOf hc

/-- **The palette of a picture is the one that is defined**, for each key and each limit. -/
theorem listsFirstSeen_collect (b : PixelBuffer) (key : Option ColorKey) (limit : ℕ) :
    ListsFirstSeen b key limit (collect key limit b.colors) where
  seen := by
    intro c
    rw [mem_firstSeen, List.mem_append, mem_colors_iff]
  nodup := nodup_firstSeen key b.colors
  order := pairwise_idxOf_eraseDups _
  entries := by rw [entries_collect, List.take_eq_take_min]
  slot := slotOf?_collect
  index := by
    intro hfits hbyte i hi
    obtain ⟨c, hcolor⟩ := b.exists_colorAt? (by rwa [PixelBuffer.pixelCount, b.size_eq])
    have hc : c ∈ b.colors := (mem_colors_iff b c).2 ⟨i, hi, hcolor⟩
    obtain ⟨index, hindex, hentry⟩ :=
      getElem?_entries_of_indexOf? hfits hbyte (mem_firstSeen.2 (List.mem_append_right _ hc))
    exact ⟨c, index, hcolor, hindex, hentry⟩

end Palette

end WatchBitmap
