import WatchBitmap.Significand

/-!
# Luminance

One bit per pixel has to come from somewhere: a color is lit if it is bright enough, and its
brightness is the BT.709 weighting of its three channels, computed in binary32.  Every binary32
value that arises is a non-negative multiple of `2 ^ (-27)`, so the arithmetic is done on the
multipliers, exactly, and each operation ends with a rounding to 24 significant bits.

* `redWeight`, `greenWeight`, `blueWeight` — the binary32 numbers nearest to `0.2126`, `0.7152`
  and `0.0722`.
* `brightness` — the weighted sum, rounded after every operation.
* `luminance` — the brightness as a channel value.
-/

namespace WatchBitmap

/-- What the multipliers count in one unit of brightness: `2 ^ 27` steps. -/
def lumaScale : Nat := 1 <<< 27

/-- The weight of the red channel, `0.2126`. -/
def redWeight : Nat := 28534688

/-- The weight of the green channel, `0.7152`. -/
def greenWeight : Nat := 95992520

/-- The weight of the blue channel, `0.0722`. -/
def blueWeight : Nat := 9690520

/-- A binary32 operation keeps 24 significant bits of its exact result. -/
def single (n : Nat) : Nat :=
  Significand.round 24 n

/-- **The weighted sum**, from left to right: red and green first, then blue. -/
def brightness (r g b : UInt8) : Nat :=
  single (single (single (redWeight * r.toNat) + single (greenWeight * g.toNat))
    + single (blueWeight * b.toNat))

/-- The brightness as a channel value: at most 255, a half going up. -/
def luminance (r g b : UInt8) : UInt8 :=
  UInt8.ofNat ((min (brightness r g b) (255 * lumaScale) + lumaScale / 2) / lumaScale)

/-- Pixels at or above this luminance, and at or above this alpha, are lit. -/
def litThreshold : UInt8 := 128

end WatchBitmap
