/-!
# Row filters

The bytes of a row are stored as differences to a prediction from bytes that are known already:
the one to the left, the one above, and the one above that to the left.

* `Filter.predict?` — the five predictions.
* `Filter.restore?` — the bytes of a row.
-/

namespace WatchBitmap.Png.Filter

/-- The distance of two numbers. -/
def distance (a b : Nat) : Nat :=
  (a - b) + (b - a)

/-- Of left, above and corner the one that is nearest to left plus above minus corner; left wins
over above, and above over corner. -/
def nearest (left above corner : UInt8) : UInt8 :=
  let toLeft := distance above.toNat corner.toNat
  let toAbove := distance left.toNat corner.toNat
  let toCorner := distance (left.toNat + above.toNat) (2 * corner.toNat)
  if toLeft ≤ toAbove ∧ toLeft ≤ toCorner then left
  else if toAbove ≤ toCorner then above
  else corner

/-- The prediction of a given number. -/
def predict? (kind : UInt8) : Option (UInt8 → UInt8 → UInt8 → UInt8) :=
  match kind.toNat with
  | 0 => some fun _ _ _ => 0
  | 1 => some fun left _ _ => left
  | 2 => some fun _ above _ => above
  | 3 => some fun left above _ => UInt8.ofNat ((left.toNat + above.toNat) / 2)
  | 4 => some nearest
  | _ => none

/-- Adds the predictions to the differences.  `lefts` holds the bytes that have the next ones to
their right, the nearest of these first; each difference comes with the byte above it and the one
above that to the left. -/
def addPredictions (predict : UInt8 → UInt8 → UInt8 → UInt8) :
    (lefts : List UInt8) → List (UInt8 × UInt8 × UInt8) → List UInt8
  | _, [] => []
  | lefts, (difference, above, corner) :: rest =>
      let byte := difference + predict (lefts.headD 0) above corner
      byte :: addPredictions predict (lefts.tail ++ [byte]) rest

/-- **The bytes of a row** whose pixels begin `reach` bytes apart, from the row above it.  To the
left of the first pixel there are zeros. -/
def restore? (reach : Nat) (kind : UInt8) (above differences : List UInt8) : Option (List UInt8) :=
  (predict? kind).map fun predict =>
    let outside := List.replicate reach 0
    addPredictions predict outside (differences.zip (above.zip (outside ++ above)))

end WatchBitmap.Png.Filter
