import WatchBitmap.Json.Sequence
import WatchBitmap.Json.Skip

/-!
# Records

A record is read from an object whose keys name its fields, or from an array that lists them in
order.  A field that is there twice is a fault, one that is not named in the record is skipped,
and whether one may be missing is up to the record.

* `Field` — how one field is read into a record that is not complete.
* `Record` — the fields, what there is before any is read, and what they make up together.
* `Record.read` — the reader.
-/

namespace WatchBitmap.Json

/-- A field of a record whose fields are collected in `β`. -/
structure Field (β : Type) where
  name : String
  /-- Whether the field has been read already. -/
  present : β → Bool
  /-- Reads the field. -/
  read : β → Reader β

/-- How records are read: `β` holds what has been read so far. -/
structure Record (α β : Type) where
  /-- Nothing has been read. -/
  blank : β
  /-- The fields, in order. -/
  fields : List (Field β)
  /-- The record, unless a field is missing that has to be there. -/
  finish : β → Option α

namespace Record

variable {α β : Type}

/-- The record that the fields make up. -/
def complete (r : Record α β) (parts : β) : Except Fault α :=
  match r.finish parts with
  | some record => .ok record
  | none => .error .unsuitable

/-- The value of an entry: that of a field, or one to be skipped.  A field that is there already
is refused before its value is looked at. -/
def readEntry (r : Record α β) (parts : β) (name : String) (text : List Char) :
    Except Fault (β × List Char) :=
  match r.fields.find? fun field => field.name == name with
  | none => do
      let text ← colon text
      let text ← Skip.value text
      return (parts, text)
  | some field =>
      if field.present parts then
        .error .unsuitable
      else do
        let text ← colon text
        field.read parts text

/-- The entries of an object up to its closing brace, at most `fuel` of them. -/
def readEntries (r : Record α β) :
    (fuel : Nat) → (first : Bool) → β → List Char → Except Fault (β × List Char)
  | 0, _, _, _ => .error .ended
  | fuel + 1, first, parts, text => do
      let (name?, text) ← nextKey first text
      match name? with
      | none => return (parts, text)
      | some name =>
          let (parts, text) ← r.readEntry parts name text
          readEntries r fuel false parts text

/-- The elements of an array that lists fields.  It may end early. -/
def readList : List (Field β) → (first : Bool) → β → List Char → Except Fault (β × List Char)
  | [], _, parts, text => .ok (parts, text)
  | field :: fields, first, parts, text => do
      let (more, text) ← nextElement first text
      if more then
        let (parts, text) ← field.read parts text
        readList fields false parts text
      else
        return (parts, text)

/-- **Reading a record.**  Whether it is complete is settled before its closing brace or bracket
is taken off. -/
def read (r : Record α β) : Reader α := fun text =>
  match skipSpace text with
  | '{' :: rest => do
      let (parts, rest) ← r.readEntries (rest.length + 1) true r.blank rest
      let record ← r.complete parts
      let rest ← endObject rest
      return (record, rest)
  | '[' :: rest => do
      let (parts, rest) ← readList r.fields true r.blank rest
      let record ← r.complete parts
      let rest ← endArray rest
      return (record, rest)
  | text => .error (refuse text)

end Record

end WatchBitmap.Json
