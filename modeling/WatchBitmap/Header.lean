import WatchBitmap.Format
import WatchBitmap.LittleEndian
import WatchBitmap.ReadError

/-!
# The header of a watch bitmap

Twenty bytes; words are little-endian.

| offset | size | field |
|---|---|---|
| 0 | 2 | layout version |
| 2 | 1 | format tag |
| 3 | 1 | flags |
| 4 | 4 | width |
| 8 | 4 | height |
| 12 | 4 | bytes per packed row |
| 16 | 2 | palette entries |
| 18 | 2 | zero; not looked at when reading |

* `Header.ofPicture` — the header of a picture, its flags following from key and compression.
* `Header.toBytes`, `Header.read` — writing and reading, the latter with every field checked.
* `Header.WellFormed` — what the checks amount to.
-/

namespace WatchBitmap

/-- The bytes of a header. -/
def headerSize : Nat := 20

/-- The layout version that is written and read. -/
def layoutVersion : UInt16 := 1

/-- Flag: a color key was applied. -/
def transparentFlag : UInt8 := 1

/-- Flag: rows are run-length coded. -/
def compressedFlag : UInt8 := 2

/-- Flag: the color key is white rather than black. -/
def whiteKeyFlag : UInt8 := 4

/-- The flag bits that have a meaning. -/
def knownFlags : UInt8 :=
  transparentFlag ||| compressedFlag ||| whiteKeyFlag

/-- What a blob declares about its picture. -/
structure Header where
  format : Format
  flags : UInt8
  width : UInt32
  height : UInt32
  /-- Bytes per packed row. -/
  rowStride : UInt32
  /-- Palette entries. -/
  paletteSize : UInt16
deriving DecidableEq, Repr

namespace Header

/-- The flags for a key. -/
def keyFlags : Option ColorKey → UInt8
  | none => 0
  | some .black => transparentFlag
  | some .white => transparentFlag ||| whiteKeyFlag

/-- The header of a picture. -/
def ofPicture (format : Format) (width height : UInt32) (paletteSize : UInt16)
    (key : Option ColorKey) (compressed : Bool) : Header where
  format
  flags := keyFlags key ||| (if compressed then compressedFlag else 0)
  width
  height
  rowStride := format.rowStride width
  paletteSize

/-- Whether a color key was applied. -/
def isTransparent (h : Header) : Bool :=
  h.flags &&& transparentFlag != 0

/-- Whether rows are run-length coded. -/
def isCompressed (h : Header) : Bool :=
  h.flags &&& compressedFlag != 0

/-- The color key.  Without the flag for transparency its color means nothing. -/
def colorKey (h : Header) : Option ColorKey :=
  if h.isTransparent then
    some (if h.flags &&& whiteKeyFlag != 0 then .white else .black)
  else
    none

/-- The bytes of all rows before compression. -/
def dataLength (h : Header) : Nat :=
  h.rowStride.toNat * h.height.toNat

/-- The bytes of a header. -/
def toBytes (h : Header) : List UInt8 :=
  LittleEndian.ofShort layoutVersion ++ [h.format.tag, h.flags] ++ LittleEndian.ofWord h.width
    ++ LittleEndian.ofWord h.height ++ LittleEndian.ofWord h.rowStride
    ++ LittleEndian.ofShort h.paletteSize ++ LittleEndian.ofShort 0

/-- A header that declares a picture: known flags, at least one pixel, the stride that goes with
the width, and no more palette entries than the format can index. -/
structure WellFormed (h : Header) : Prop where
  flags : h.flags &&& ~~~knownFlags = 0
  width : h.width ≠ 0
  height : h.height ≠ 0
  rowStride : h.rowStride = h.format.rowStride h.width
  paletteSize : h.paletteSize.toNat ≤ h.format.paletteLimit

/-- Checks the fields behind the format tag, in the order in which they are stored. -/
def check (h : Header) : Except ReadError Header :=
  if h.flags &&& ~~~knownFlags ≠ 0 then
    .error (.unknownFlags h.flags)
  else if h.width = 0 ∨ h.height = 0 then
    .error (.emptyImage h.width h.height)
  else if h.rowStride ≠ h.format.rowStride h.width then
    .error (.strideMismatch (h.format.rowStride h.width) h.rowStride)
  else if h.format.paletteLimit < h.paletteSize.toNat then
    .error (.paletteTooLarge h.paletteSize.toNat h.format.paletteLimit)
  else
    .ok h

/-- **Reading.**  The header at the front of some bytes. -/
def read : List UInt8 → Except ReadError Header
  | v₀ :: v₁ :: tag :: flags :: w₀ :: w₁ :: w₂ :: w₃ :: h₀ :: h₁ :: h₂ :: h₃
      :: s₀ :: s₁ :: s₂ :: s₃ :: p₀ :: p₁ :: _ :: _ :: _ =>
      if LittleEndian.short v₀ v₁ ≠ layoutVersion then
        .error (.unsupportedVersion (LittleEndian.short v₀ v₁))
      else
        match Format.ofTag? tag with
        | none => .error (.unknownFormat tag)
        | some format =>
            check {
              format
              flags
              width := LittleEndian.word w₀ w₁ w₂ w₃
              height := LittleEndian.word h₀ h₁ h₂ h₃
              rowStride := LittleEndian.word s₀ s₁ s₂ s₃
              paletteSize := LittleEndian.short p₀ p₁
            }
  | bytes => .error (.truncated headerSize bytes.length)

@[simp] theorem length_toBytes (h : Header) : h.toBytes.length = headerSize := rfl

/-- The check passes well-formed headers and no others, and changes none. -/
theorem check_eq_ok_iff {h h' : Header} : h.check = .ok h' ↔ h' = h ∧ h.WellFormed := by
  unfold check
  constructor
  · intro hok
    split at hok
    · simp at hok
    · next hflags =>
        split at hok
        · simp at hok
        · next hempty =>
            split at hok
            · simp at hok
            · next hstride =>
                split at hok
                · simp at hok
                · next hlimit =>
                    refine ⟨(Except.ok.inj hok).symm, ?_, ?_, ?_, ?_, ?_⟩
                    · simpa using hflags
                    · exact fun h => hempty (.inl h)
                    · exact fun h => hempty (.inr h)
                    · simpa using hstride
                    · omega
  · rintro ⟨rfl, hflags, hwidth, hheight, hstride, hsize⟩
    simp [hflags, hwidth, hheight, ← hstride, Nat.not_lt.2 hsize]

end Header

end WatchBitmap
