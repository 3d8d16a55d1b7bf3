import WatchBitmap.Json.Sequence

/-!
# Variants

A value that is one of several variants is written as the name of the variant, or as an object
with that name as its only key.  The object carries the variant's data, or null if it has none.

* `Variant` — a variant without data, or with it.
* `oneOf` — reads a value that is one of some variants.
-/

namespace WatchBitmap.Json

/-- One of several shapes of a value. -/
inductive Variant (α : Type) where
  /-- A name that stands for a value by itself. -/
  | plain (name : String) (value : α)
  /-- A name that goes with data. -/
  | carrying (name : String) (read : Reader α)

variable {α : Type}

/-- The name of a variant. -/
def Variant.name : Variant α → String
  | plain name _ => name
  | carrying name _ => name

/-- The variant of a given name. -/
def Variant.find (variants : List (Variant α)) (name : String) : Except Fault (Variant α) :=
  match variants.find? fun v => v.name == name with
  | some v => .ok v
  | none => .error .unsuitable

/-- A variant that is given by its name only. -/
def Variant.bare : Variant α → Except Fault α
  | plain _ value => .ok value
  | carrying _ _ => .error .unsuitable

/-- The data of a variant. -/
def Variant.readData : Variant α → Reader α
  | plain _ value => fun text => (null text).map fun (_, rest) => (value, rest)
  | carrying _ read => read

/-- **One of some variants.** -/
def oneOf (variants : List (Variant α)) : Reader α := fun text =>
  match skipSpace text with
  | [] => .error .ended
  | '\"' :: rest => do
      let (name, rest) ← Text.read rest
      let v ← Variant.find variants name
      let value ← v.bare
      return (value, rest)
  | '{' :: rest => do
      let (name, rest) ← string rest
      let v ← Variant.find variants name
      let rest ← colon rest
      let (value, rest) ← v.readData rest
      let rest ← endObject rest
      return (value, rest)
  | _ => .error .malformed

/-- Writes data under the name of its variant. -/
def writeCarrying (name : String) (data : List Char) : List Char :=
  writeObject [(name, data)]

end WatchBitmap.Json
