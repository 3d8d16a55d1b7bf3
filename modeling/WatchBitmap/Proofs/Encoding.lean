import Mathlib.Data.List.Basic
import Mathlib.Order.WellFounded
import Mathlib.Tactic.Common
import WatchBitmap.Encode
import WatchBitmap.Proofs.Blocks
import WatchBitmap.Proofs.Palette

/-!
# What the encoder makes of a picture

The encoder looks at three things in turn: the dimensions, the selector of the key, and the number
of colors.  Each of them can stop it, and nothing else can.  If none does, the blob is made of
parts that can be named without running it: the palette lists the colors as they are first seen,
and each pixel's value is the position of its color there, or its bit.

* `FormatChoice.Settles` — which format a choice comes to for a number of colors.
* `PixelBuffer.paletteFor`, `PixelBuffer.valuesFor`, `PixelBuffer.encodingFor` — the parts.
* `refused_or_key` — what the encoder refuses before it looks at the colors.
* `Outcome`, `encode_outcome` — **the encoder's outcome**, case by case.
-/

namespace WatchBitmap

/-! ## Keys -/

lemma ColorKey.name_injective : Function.Injective ColorKey.name := by
  intro k k' h
  have h' := congrArg ColorKey.ofSelector? h
  rwa [ColorKey.ofSelector?_name, ColorKey.ofSelector?_name, Option.some.injEq] at h'

/-- Selectors tell keys apart, and a key from none. -/
lemma map_name_injective : Function.Injective (Option.map ColorKey.name) :=
  Option.map_injective ColorKey.name_injective

/-- The selector of a key asks for that key, and no selector for none. -/
lemma keyOfSelector_name (key : Option ColorKey) :
    keyOfSelector (key.map ColorKey.name) = .ok key := by
  cases key with
  | none => rfl
  | some key => rw [Option.map_some, keyOfSelector, ColorKey.ofSelector?_name]

/-- Another selector is refused. -/
lemma keyOfSelector_of_ne {selector : String} (hwhite : selector ≠ ColorKey.white.name)
    (hblack : selector ≠ ColorKey.black.name) :
    keyOfSelector (some selector) = .error (.invalidSelector selector) := by
  rw [keyOfSelector, ColorKey.ofSelector?, if_neg hwhite, if_neg hblack]

/-- Whatever is asked for is a key, or a selector that names none. -/
lemma selector_cases (selector : Option String) :
    (∃ key : Option ColorKey, selector = key.map ColorKey.name) ∨
      ∃ s, selector = some s ∧ s ≠ ColorKey.white.name ∧ s ≠ ColorKey.black.name := by
  cases selector with
  | none => exact Or.inl ⟨none, rfl⟩
  | some s =>
      by_cases hwhite : s = ColorKey.white.name
      · exact Or.inl ⟨some .white, by rw [hwhite, Option.map_some]⟩
      · by_cases hblack : s = ColorKey.black.name
        · exact Or.inl ⟨some .black, by rw [hblack, Option.map_some]⟩
        · exact Or.inr ⟨s, rfl, hwhite, hblack⟩

/-- A selector that names no key is not that of a key. -/
lemma map_name_ne {selector : String} (hwhite : selector ≠ ColorKey.white.name)
    (hblack : selector ≠ ColorKey.black.name) (key : Option ColorKey) :
    some selector ≠ key.map ColorKey.name := by
  rcases key with _ | _ | _
  · exact Option.some_ne_none selector
  · exact fun h => hwhite (Option.some.inj h)
  · exact fun h => hblack (Option.some.inj h)

/-! ## Formats -/

/-- How many colors a choice of format has room for.  A monochrome blob has no palette to fill. -/
def FormatChoice.paletteCapacity? : FormatChoice → Option ℕ
  | .fixed .monochrome => none
  | .fixed format => some format.capacity
  | .smallestIndexed => some Format.indexed8.capacity

/-- **The format a choice comes to** for `count` colors: the fixed one, if it has room for them, or
the narrowest indexed one that has. -/
inductive FormatChoice.Settles (count : ℕ) : FormatChoice → Format → Prop
  | monochrome : Settles count (.fixed .monochrome) .monochrome
  | fixed {format : Format} (hindexed : format.isIndexed = true)
      (hfits : count ≤ format.capacity) : Settles count (.fixed format) format
  | narrowest {format : Format} (hindexed : format.isIndexed = true)
      (hfits : count ≤ format.capacity)
      (hleast : ∀ other : Format, other.isIndexed = true → count ≤ other.capacity →
        format.bitsPerPixel ≤ other.bitsPerPixel) : Settles count .smallestIndexed format

lemma Format.capacity_le (format : Format) : format.capacity ≤ Format.indexed8.capacity := by
  cases format <;> decide

lemma Format.eq_monochrome_or_isIndexed (format : Format) :
    format = .monochrome ∨ format.isIndexed = true := by
  rw [isIndexed, bne_iff_ne]
  exact Decidable.em _

lemma FormatChoice.paletteCapacity?_fixed {format : Format} (h : format.isIndexed = true) :
    (FormatChoice.fixed format).paletteCapacity? = some format.capacity := by
  cases format with
  | monochrome => exact absurd h (by decide)
  | indexed2 => rfl
  | indexed4 => rfl
  | indexed8 => rfl

/-- In an indexed format that a choice comes to, the colors have room. -/
lemma FormatChoice.Settles.le_capacity {count : ℕ} {choice : FormatChoice} {format : Format}
    (h : choice.Settles count format) (hindexed : format.isIndexed = true) :
    count ≤ format.capacity := by
  cases h with
  | monochrome => exact absurd hindexed (by decide)
  | fixed _ hfits => exact hfits
  | narrowest _ hfits _ => exact hfits

/-- A choice other than monochrome never comes to the monochrome format. -/
lemma FormatChoice.Settles.isIndexed {count : ℕ} {choice : FormatChoice} {format : Format}
    (h : choice.Settles count format) (hchoice : choice ≠ .fixed .monochrome) :
    format.isIndexed = true := by
  cases h with
  | monochrome => exact absurd rfl hchoice
  | fixed hindexed _ => exact hindexed
  | narrowest hindexed _ _ => exact hindexed

/-- So an index into its palette is one byte. -/
lemma FormatChoice.Settles.le_widest {count : ℕ} {choice : FormatChoice} {format : Format}
    (h : choice.Settles count format) (hindexed : format.isIndexed = true) :
    count ≤ Format.indexed8.capacity :=
  Nat.le_trans (h.le_capacity hindexed) format.capacity_le

/-- The search for the narrowest format finds it. -/
lemma smallestIndexed?_of_settles {count : ℕ} {format : Format}
    (h : FormatChoice.smallestIndexed.Settles count format) :
    Format.smallestIndexed? count = some format := by
  cases h with
  | narrowest hindexed hfits hleast =>
      have hnot2 : count ≤ Format.indexed2.capacity → format.bitsPerPixel ≤ 2 :=
        hleast .indexed2 rfl
      have hnot4 : count ≤ Format.indexed4.capacity → format.bitsPerPixel ≤ 4 :=
        hleast .indexed4 rfl
      rw [Format.smallestIndexed?, Format.indexed]
      cases format with
      | monochrome => exact absurd hindexed (by decide)
      | indexed2 => simp only [List.find?_cons, decide_eq_true hfits]
      | indexed4 =>
          have h2 : ¬ count ≤ Format.indexed2.capacity := fun h => absurd (hnot2 h) (by decide)
          simp only [List.find?_cons, decide_eq_false h2, decide_eq_true hfits]
      | indexed8 =>
          have h2 : ¬ count ≤ Format.indexed2.capacity := fun h => absurd (hnot2 h) (by decide)
          have h4 : ¬ count ≤ Format.indexed4.capacity := fun h => absurd (hnot4 h) (by decide)
          simp only [List.find?_cons, decide_eq_false h2, decide_eq_false h4,
            decide_eq_true hfits]

/-- Up to 256 colors there is a narrowest format. -/
lemma exists_narrowest {count : ℕ} (h : count ≤ Format.indexed8.capacity) :
    ∃ format, FormatChoice.smallestIndexed.Settles count format := by
  obtain ⟨format, ⟨hindexed, hfits⟩, hmin⟩ := (measure Format.bitsPerPixel).wf.has_min
    {f : Format | f.isIndexed = true ∧ count ≤ f.capacity} ⟨.indexed8, rfl, h⟩
  refine ⟨format, .narrowest hindexed hfits ?_⟩
  intro other hother hroom
  exact Nat.le_of_not_lt (hmin other ⟨hother, hroom⟩)

/-- A choice comes to a format, or there are more colors than it has room for. -/
lemma FormatChoice.settles_or_overflows (choice : FormatChoice) (count : ℕ) :
    (∃ format, choice.Settles count format) ∨
      ∃ capacity, choice.paletteCapacity? = some capacity ∧ capacity < count := by
  cases choice with
  | smallestIndexed =>
      rcases Nat.lt_or_ge Format.indexed8.capacity count with hover | hfits
      · exact Or.inr ⟨_, rfl, hover⟩
      · exact Or.inl (exists_narrowest hfits)
  | fixed format =>
      rcases format.eq_monochrome_or_isIndexed with rfl | hindexed
      · exact Or.inl ⟨.monochrome, .monochrome⟩
      · rcases Nat.lt_or_ge format.capacity count with hover | hfits
        · exact Or.inr ⟨_, paletteCapacity?_fixed hindexed, hover⟩
        · exact Or.inl ⟨format, .fixed hindexed hfits⟩

/-- What a choice comes to has room for the colors that the choice has room for. -/
lemma FormatChoice.Settles.le_of_paletteCapacity? {count capacity : ℕ} {choice : FormatChoice}
    {format : Format} (h : choice.Settles count format)
    (hcapacity : choice.paletteCapacity? = some capacity) : count ≤ capacity := by
  cases h with
  | monochrome => simp [paletteCapacity?] at hcapacity
  | fixed hindexed hfits =>
      rw [paletteCapacity?_fixed hindexed, Option.some.injEq] at hcapacity
      omega
  | narrowest _ hfits _ =>
      rw [paletteCapacity?, Option.some.injEq] at hcapacity
      have := Format.capacity_le format
      omega

/-! ## The parts of a blob -/

/-- The value of a pixel of a given color: its position among the colors as they are first seen. -/
def PixelBuffer.indexFor (b : PixelBuffer) (key : Option ColorKey) (c : Color) : UInt8 :=
  UInt8.ofNat ((firstSeen key b.colors).idxOf c)

/-- The palette of a picture's blob. -/
def PixelBuffer.paletteFor (b : PixelBuffer) (key : Option ColorKey) (format : Format) :
    List Color :=
  if format.isIndexed then firstSeen key b.colors else []

/-- The values of a picture's pixels, row by row: indices, or bits. -/
def PixelBuffer.valuesFor (b : PixelBuffer) (key : Option ColorKey) (format : Format) :
    List UInt8 :=
  if format.isIndexed then b.colors.map (b.indexFor key) else b.bits.map bitValue

/-- **The parts of a picture's blob** in a given format. -/
def PixelBuffer.encodingFor (b : PixelBuffer) (key : Option ColorKey) (format : Format)
    (compression : Compression) : Encoding where
  header := .ofPicture format b.width b.height
    (UInt16.ofNat (b.paletteFor key format).length) key (compression = .rows)
  rows := storeRows format compression b.width.toNat b.height.toNat (b.valuesFor key format)
  palette := b.paletteFor key format

variable {b : PixelBuffer} {options : EncodeOptions} {choice : FormatChoice}
  {key : Option ColorKey} {format : Format}

@[simp] lemma PixelBuffer.length_valuesFor (b : PixelBuffer) (key : Option ColorKey)
    (format : Format) : (b.valuesFor key format).length = b.width.toNat * b.height.toNat := by
  rw [valuesFor]
  split_ifs <;> simp

lemma PixelBuffer.paletteFor_of_isIndexed (b : PixelBuffer) (key : Option ColorKey)
    (hindexed : format.isIndexed = true) : b.paletteFor key format = firstSeen key b.colors :=
  if_pos hindexed

lemma PixelBuffer.valuesFor_of_isIndexed (b : PixelBuffer) (key : Option ColorKey)
    (hindexed : format.isIndexed = true) :
    b.valuesFor key format = b.colors.map (b.indexFor key) :=
  if_pos hindexed

lemma PixelBuffer.valuesFor_monochrome (b : PixelBuffer) (key : Option ColorKey) :
    b.valuesFor key .monochrome = b.bits.map bitValue :=
  rfl

lemma PixelBuffer.mem_colors_of_colorAt? {i : ℕ} {c : Color} (hc : b.colorAt? i = some c) :
    c ∈ b.colors :=
  List.mem_of_getElem? ((b.getElem?_colors i).trans hc)

/-- Each color of a picture is among those first seen. -/
lemma PixelBuffer.mem_firstSeen {c : Color} (hc : c ∈ b.colors) (key : Option ColorKey) :
    c ∈ firstSeen key b.colors :=
  WatchBitmap.mem_firstSeen.2 (List.mem_append_right _ hc)

/-- Every pixel of a row is there to be looked at. -/
lemma PixelBuffer.exists_at (b : PixelBuffer) {x y : ℕ} (hx : x < b.width.toNat)
    (hy : y < b.height.toNat) :
    ∃ c bit, b.colorAt? (y * b.width.toNat + x) = some c ∧
      b.bitAt? (y * b.width.toNat + x) = some bit := by
  have hlt : y * b.width.toNat + x < b.pixelCount := by
    rw [pixelCount, b.size_eq, Nat.mul_comm b.width.toNat]
    exact mul_add_lt_mul hy hx
  obtain ⟨c, hc⟩ := b.exists_colorAt? hlt
  obtain ⟨bit, hbit⟩ := b.exists_bitAt? hlt
  exact ⟨c, bit, hc, hbit⟩

/-- The palette fits the format. -/
lemma PixelBuffer.length_paletteFor_le
    (hsettles : choice.Settles (distinctColors key b.colors) format) :
    (b.paletteFor key format).length ≤ format.paletteLimit := by
  rw [paletteFor, Format.paletteLimit]
  split_ifs with hindexed
  · rw [length_firstSeen]
    exact hsettles.le_capacity hindexed
  · exact Nat.le_refl 0

/-- Within the limit of a scan each pixel finds its color in the palette. -/
lemma pixelValues_collect {limit : ℕ} (hfits : distinctColors key b.colors ≤ limit) :
    pixelValues b (some (Palette.collect key limit b.colors))
      = .ok (b.colors.map (b.indexFor key)) := by
  refine mapM_eq_pure fun c hc => ?_
  rw [Palette.valueOf, Palette.indexOf?_collect hfits (PixelBuffer.mem_firstSeen hc key)]
  rfl

/-- A scan up to `limit` passes the capacity check exactly if the colors fit. -/
lemma ensureCapacity_collect (key : Option ColorKey) (limit : ℕ) (colors : List Color) :
    (Palette.collect key limit colors).ensureCapacity limit
      = if limit < distinctColors key colors then .error (.paletteOverflow (limit + 1) limit)
        else .ok () := by
  rw [Palette.ensureCapacity, Palette.size_collect]
  split_ifs with h h' h'
  · rw [Nat.min_eq_left h']
  · omega
  · omega
  · rfl

lemma settleFormat_fixed {colors : List Color} (hindexed : format.isIndexed = true) :
    settleFormat colors key (.fixed format)
      = ((Palette.collect key format.capacity colors).ensureCapacity format.capacity).map
          fun _ => (format, some (Palette.collect key format.capacity colors)) := by
  cases format with
  | monochrome => exact absurd hindexed (by decide)
  | indexed2 => rfl
  | indexed4 => rfl
  | indexed8 => rfl

/-- **Settling the format** when the colors have room. -/
lemma settleFormat_of_settles
    (hsettles : choice.Settles (distinctColors key b.colors) format) :
    ∃ palette, settleFormat b.colors key choice = .ok (format, palette) ∧
      pixelValues b palette = .ok (b.valuesFor key format) ∧
      palette.elim [] Palette.entries = b.paletteFor key format := by
  cases hsettles with
  | monochrome => exact ⟨none, rfl, rfl, rfl⟩
  | fixed hindexed hfits =>
      refine ⟨some (Palette.collect key format.capacity b.colors), ?_, ?_, ?_⟩
      · rw [settleFormat_fixed hindexed, ensureCapacity_collect, if_neg (Nat.not_lt.2 hfits)]
        rfl
      · rw [pixelValues_collect hfits, b.valuesFor_of_isIndexed key hindexed]
      · rw [b.paletteFor_of_isIndexed key hindexed, Option.elim_some,
          Palette.entries_collect_of_le hfits]
  | narrowest hindexed hfits hleast =>
      have hfits' := Nat.le_trans hfits (Format.capacity_le format)
      have hsize : (Palette.collect key Format.indexed8.capacity b.colors).size
          = distinctColors key b.colors := by
        rw [Palette.size_collect, Nat.min_eq_right (Nat.le_succ_of_le hfits')]
      refine ⟨some (Palette.collect key Format.indexed8.capacity b.colors), ?_, ?_, ?_⟩
      · rw [settleFormat, hsize, smallestIndexed?_of_settles (.narrowest hindexed hfits hleast)]
      · rw [pixelValues_collect hfits', b.valuesFor_of_isIndexed key hindexed]
      · rw [b.paletteFor_of_isIndexed key hindexed, Option.elim_some,
          Palette.entries_collect_of_le hfits']

/-- **Settling the format** when they do not. -/
lemma settleFormat_of_overflows {capacity : ℕ}
    (hcapacity : choice.paletteCapacity? = some capacity)
    (hover : capacity < distinctColors key b.colors) :
    settleFormat b.colors key choice = .error (.paletteOverflow (capacity + 1) capacity) := by
  cases choice with
  | fixed format =>
      rcases format.eq_monochrome_or_isIndexed with rfl | hindexed
      · simp [FormatChoice.paletteCapacity?] at hcapacity
      · rw [FormatChoice.paletteCapacity?_fixed hindexed, Option.some.injEq] at hcapacity
        subst hcapacity
        rw [settleFormat_fixed hindexed, ensureCapacity_collect, if_pos hover]
        rfl
  | smallestIndexed =>
      rw [FormatChoice.paletteCapacity?, Option.some.injEq] at hcapacity
      subst hcapacity
      have hsize : (Palette.collect key Format.indexed8.capacity b.colors).size
          = Format.indexed8.capacity + 1 := by
        rw [Palette.size_collect, Nat.min_eq_left hover]
      rw [settleFormat, hsize]
      rfl

/-- An index is a position, no part of which is lost in one byte. -/
lemma PixelBuffer.toNat_indexFor (hfits : distinctColors key b.colors ≤ Format.indexed8.capacity)
    {c : Color} (hc : c ∈ b.colors) :
    (b.indexFor key c).toNat = (firstSeen key b.colors).idxOf c := by
  have hlt := List.idxOf_lt_length_of_mem (PixelBuffer.mem_firstSeen hc key)
  rw [length_firstSeen] at hlt
  have hcapacity : Format.indexed8.capacity = 256 := rfl
  rw [indexFor, UInt8.toNat_ofNat', Nat.mod_eq_of_lt (by omega)]

/-- **Every value fits its slot.** -/
lemma PixelBuffer.toNat_lt_of_mem_valuesFor
    (hsettles : choice.Settles (distinctColors key b.colors) format) {value : UInt8}
    (hvalue : value ∈ b.valuesFor key format) : value.toNat < 2 ^ format.bitsPerPixel := by
  rw [valuesFor] at hvalue
  split_ifs at hvalue with hindexed
  · obtain ⟨c, hc, rfl⟩ := List.mem_map.1 hvalue
    have hfits := hsettles.le_capacity hindexed
    rw [b.toNat_indexFor (hsettles.le_widest hindexed) hc, ← Nat.one_shiftLeft]
    refine Nat.lt_of_lt_of_le ?_ hfits
    rw [← length_firstSeen]
    exact List.idxOf_lt_length_of_mem (PixelBuffer.mem_firstSeen hc key)
  · obtain ⟨bit, -, rfl⟩ := List.mem_map.1 hvalue
    rw [format.eq_monochrome_or_isIndexed.resolve_right hindexed]
    cases bit <;> decide

/-! ## The encoder, case by case -/

lemma PixelBuffer.isEmpty_iff (b : PixelBuffer) :
    b.isEmpty = true ↔ b.width = 0 ∨ b.height = 0 := by
  rw [isEmpty, Bool.or_eq_true, beq_iff_eq, beq_iff_eq]

lemma encode_of_isEmpty (hempty : b.width = 0 ∨ b.height = 0) (options : EncodeOptions) :
    encode b options = .error (.emptyBuffer b.width b.height) := by
  rw [encode, encoding, if_pos ((PixelBuffer.isEmpty_iff b).2 hempty)]
  rfl

lemma encode_of_badSelector (hdim : ¬ (b.width = 0 ∨ b.height = 0)) {selector : String}
    (hselector : options.colorKey = some selector) (hwhite : selector ≠ ColorKey.white.name)
    (hblack : selector ≠ ColorKey.black.name) :
    encode b options = .error (.invalidSelector selector) := by
  rw [encode, encoding, if_neg (by rwa [PixelBuffer.isEmpty_iff]), hselector,
    keyOfSelector_of_ne hwhite hblack]
  rfl

lemma encode_of_overflows (hdim : ¬ (b.width = 0 ∨ b.height = 0))
    (hkey : options.colorKey = key.map ColorKey.name) {capacity : ℕ}
    (hcapacity : options.format.paletteCapacity? = some capacity)
    (hover : capacity < distinctColors key b.colors) :
    encode b options = .error (.paletteOverflow (capacity + 1) capacity) := by
  have hsettle := settleFormat_of_overflows hcapacity hover
  rw [encode, encoding, if_neg (by rwa [PixelBuffer.isEmpty_iff]), hkey, keyOfSelector_name]
  simp only [bind, Except.bind, hsettle]
  rfl

lemma encoding_of_settles (hdim : ¬ (b.width = 0 ∨ b.height = 0))
    (hkey : options.colorKey = key.map ColorKey.name)
    (hsettles : options.format.Settles (distinctColors key b.colors) format) :
    encoding b options = .ok (b.encodingFor key format options.compression) := by
  obtain ⟨palette, hsettle, hvalues, hentries⟩ := settleFormat_of_settles hsettles
  rw [encoding, if_neg (by rwa [PixelBuffer.isEmpty_iff]), hkey, keyOfSelector_name]
  simp only [bind, Except.bind, pure, Except.pure, hsettle, hvalues, hentries]
  rfl

lemma encode_of_settles (hdim : ¬ (b.width = 0 ∨ b.height = 0))
    (hkey : options.colorKey = key.map ColorKey.name)
    (hsettles : options.format.Settles (distinctColors key b.colors) format) :
    encode b options = .ok (b.encodingFor key format options.compression).toBytes := by
  rw [encode, encoding_of_settles hdim hkey hsettles]
  rfl

/-- **Before the colors are looked at** a picture is refused, in every format and with every
compression, or it has pixels and a key that exists. -/
lemma refused_or_key (b : PixelBuffer) (selector : Option String) :
    (∃ e, (∀ choice compression, encode b ⟨choice, selector, compression⟩ = .error e) ∧
      ∀ colors capacity, e ≠ .paletteOverflow colors capacity) ∨
    (¬ (b.width = 0 ∨ b.height = 0) ∧
      ∃ key : Option ColorKey, selector = key.map ColorKey.name) := by
  by_cases hdim : b.width = 0 ∨ b.height = 0
  · exact Or.inl ⟨_, fun _ _ => encode_of_isEmpty hdim _, by simp⟩
  · rcases selector_cases selector with hkey | ⟨s, hs, hwhite, hblack⟩
    · exact Or.inr ⟨hdim, hkey⟩
    · exact Or.inl ⟨_, fun _ _ => encode_of_badSelector hdim hs hwhite hblack, by simp⟩

/-- **What can become of a picture.**  The cases exclude each other: dimensions come before the
selector, and the selector before the colors. -/
inductive Outcome (b : PixelBuffer) (options : EncodeOptions) :
    Except EncodeError (List UInt8) → Prop
  | empty (hempty : b.width = 0 ∨ b.height = 0) :
      Outcome b options (.error (.emptyBuffer b.width b.height))
  | badSelector {selector : String} (hdim : ¬ (b.width = 0 ∨ b.height = 0))
      (hselector : options.colorKey = some selector) (hwhite : selector ≠ ColorKey.white.name)
      (hblack : selector ≠ ColorKey.black.name) :
      Outcome b options (.error (.invalidSelector selector))
  | overflow {key : Option ColorKey} {capacity : ℕ} (hdim : ¬ (b.width = 0 ∨ b.height = 0))
      (hkey : options.colorKey = key.map ColorKey.name)
      (hcapacity : options.format.paletteCapacity? = some capacity)
      (hover : capacity < distinctColors key b.colors) :
      Outcome b options (.error (.paletteOverflow (capacity + 1) capacity))
  | encoded {key : Option ColorKey} {format : Format} (hdim : ¬ (b.width = 0 ∨ b.height = 0))
      (hkey : options.colorKey = key.map ColorKey.name)
      (hsettles : options.format.Settles (distinctColors key b.colors) format) :
      Outcome b options (.ok (b.encodingFor key format options.compression).toBytes)

/-- **The encoder's outcome** is one of these. -/
theorem encode_outcome (b : PixelBuffer) (options : EncodeOptions) :
    Outcome b options (encode b options) := by
  by_cases hdim : b.width = 0 ∨ b.height = 0
  · rw [encode_of_isEmpty hdim]
    exact .empty hdim
  · rcases selector_cases options.colorKey with ⟨key, hkey⟩ | ⟨s, hs, hwhite, hblack⟩
    · rcases options.format.settles_or_overflows (distinctColors key b.colors) with
        ⟨format, hsettles⟩ | ⟨capacity, hcapacity, hover⟩
      · rw [encode_of_settles hdim hkey hsettles]
        exact .encoded hdim hkey hsettles
      · rw [encode_of_overflows hdim hkey hcapacity hover]
        exact .overflow hdim hkey hcapacity hover
    · rw [encode_of_badSelector hdim hs hwhite hblack]
      exact .badSelector hdim hs hwhite hblack

/-- A blob comes from a picture with pixels, a key that exists, and colors that have room. -/
theorem encode_eq_ok {blob : List UInt8} (h : encode b options = .ok blob) :
    ∃ key format, ¬ (b.width = 0 ∨ b.height = 0) ∧ options.colorKey = key.map ColorKey.name ∧
      options.format.Settles (distinctColors key b.colors) format ∧
      blob = (b.encodingFor key format options.compression).toBytes := by
  have hout := encode_outcome b options
  rw [h] at hout
  cases hout with
  | encoded hdim hkey hsettles => exact ⟨_, _, hdim, hkey, hsettles, rfl⟩

/-- So do the parts of a blob. -/
lemma encoding_eq_ok {parts : Encoding} (h : encoding b options = .ok parts) :
    ∃ key format, ¬ (b.width = 0 ∨ b.height = 0) ∧ options.colorKey = key.map ColorKey.name ∧
      options.format.Settles (distinctColors key b.colors) format ∧
      parts = b.encodingFor key format options.compression := by
  have hblob : encode b options = .ok parts.toBytes := by
    rw [encode, h]
    rfl
  obtain ⟨key, format, hdim, hkey, hsettles, -⟩ := encode_eq_ok hblob
  refine ⟨key, format, hdim, hkey, hsettles, ?_⟩
  exact Except.ok.inj (h.symm.trans (encoding_of_settles hdim hkey hsettles))

end WatchBitmap
