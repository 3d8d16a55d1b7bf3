import WatchBitmap.Hex
import WatchBitmap.Luminance

/-!
# Colors and the reserved transparency keys

* `Color` — eight bits per channel, red, green, blue and alpha.
* `Color.isLit` — the rule by which a color becomes one bit.
* `ColorKey` — which reserved color stands for transparency, with its two spellings: a selector
  (`ColorKey.ofSelector?`), and a word inside a resource's name (`ColorKey.ofResourceName?`).
-/

namespace WatchBitmap

/-- A color with eight bits per channel. -/
structure Color where
  r : UInt8
  g : UInt8
  b : UInt8
  a : UInt8
deriving DecidableEq, Repr, Inhabited

namespace Color

/-- Opaque white. -/
def white : Color := ⟨255, 255, 255, 255⟩

/-- Opaque black. -/
def black : Color := ⟨0, 0, 0, 255⟩

/-- The four channels in the order in which a palette stores them. -/
def toBytes (c : Color) : List UInt8 :=
  [c.r, c.g, c.b, c.a]

/-- **Reading colors.**  Every four bytes are one color; fewer than four at the end are none. -/
def ofBytes : List UInt8 → List Color
  | r :: g :: b :: a :: rest => ⟨r, g, b, a⟩ :: ofBytes rest
  | _ => []

/-- A color is lit if it is at least half opaque and bright enough. -/
def isLit (c : Color) : Bool :=
  decide (litThreshold ≤ c.a) && decide (litThreshold ≤ luminance c.r c.g c.b)

/-- The color that stands for a single bit: lit is white, dark is black. -/
def ofBit (lit : Bool) : Color :=
  if lit then white else black

/-- The channels in hexadecimal behind a number sign. -/
def text (c : Color) : String :=
  "#" ++ Hex.ofBytes c.toBytes

@[simp] theorem length_toBytes (c : Color) : c.toBytes.length = 4 := rfl

theorem ofBytes_toBytes_append (c : Color) (rest : List UInt8) :
    ofBytes (c.toBytes ++ rest) = c :: ofBytes rest := rfl

/-- What a palette stores is read back. -/
theorem ofBytes_flatMap_toBytes (cs : List Color) : ofBytes (cs.flatMap toBytes) = cs := by
  induction cs with
  | nil => rfl
  | cons c cs ih => rw [List.flatMap_cons, ofBytes_toBytes_append, ih]

/-- A bit survives being shown as a color. -/
@[simp] theorem isLit_ofBit (lit : Bool) : (ofBit lit).isLit = lit := by
  cases lit <;> decide +kernel

end Color

/-- Which reserved color is treated as transparent. -/
inductive ColorKey where
  | white
  | black
deriving DecidableEq, Repr

namespace ColorKey

/-- The reserved color that a key designates. -/
def color : ColorKey → Color
  | white => Color.white
  | black => Color.black

/-- The selector that names a key. -/
def name : ColorKey → String
  | white => "WHITE"
  | black => "BLACK"

/-- How a key is written in a log line. -/
def label : ColorKey → String
  | white => "White"
  | black => "Black"

/-- A selector names a key only by its exact spelling. -/
def ofSelector? (selector : String) : Option ColorKey :=
  if selector = white.name then some white
  else if selector = black.name then some black
  else none

/-- `word` occurs somewhere in `text`. -/
def Mentions (text word : String) : Prop :=
  word.toList <:+: text.toList

instance (text word : String) : Decidable (Mentions text word) :=
  inferInstanceAs (Decidable (_ <:+: _))

/-- A resource's name asks for a key by mentioning its selector; white wins over black. -/
def ofResourceName? (name : String) : Option ColorKey :=
  if Mentions name white.name then some white
  else if Mentions name black.name then some black
  else none

@[simp] theorem ofSelector?_name (key : ColorKey) : ofSelector? key.name = some key := by
  cases key <;> rfl

end ColorKey

end WatchBitmap
