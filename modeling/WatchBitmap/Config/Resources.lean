import WatchBitmap.Json.Record
import WatchBitmap.Json.Variant
import WatchBitmap.Resource

/-!
# Manifests and platform tables in JSON

* `ResourceKind`, `ResourceDefinition` — one declared resource.
* `ResourceManifest` — the resources that are declared for a build.
* `Platform`, `PlatformTable` — platforms under their names.  Of two with the same name the last
  counts.
-/

namespace WatchBitmap

open Json (Reader Record Variant Fault)

namespace ResourceKind

/-- Reads a kind. -/
def json : Reader ResourceKind :=
  Json.oneOf ([pbi, pbi8, pngTrans].map fun kind => .plain kind.name kind)

/-- Writes a kind. -/
def toJson (kind : ResourceKind) : List Char :=
  Json.Text.write kind.name

end ResourceKind

namespace ResourceDefinition

/-- What has been read of a declaration. -/
structure Parts where
  name : Option String := none
  kind : Option ResourceKind := none
  file : Option String := none
  compress : Option Bool := none

/-- A declaration as a record.  Unless it says so its rows are not compressed. -/
def record : Record ResourceDefinition Parts where
  blank := {}
  fields := [
    ⟨"name", fun p => p.name.isSome, fun p text =>
      (Json.string text).map fun (v, rest) => ({ p with name := some v }, rest)⟩,
    ⟨"type", fun p => p.kind.isSome, fun p text =>
      (ResourceKind.json text).map fun (v, rest) => ({ p with kind := some v }, rest)⟩,
    ⟨"file", fun p => p.file.isSome, fun p text =>
      (Json.string text).map fun (v, rest) => ({ p with file := some v }, rest)⟩,
    ⟨"compress", fun p => p.compress.isSome, fun p text =>
      (Json.bool text).map fun (v, rest) => ({ p with compress := some v }, rest)⟩]
  finish p := do return ⟨← p.name, ← p.kind, ← p.file, p.compress.getD false⟩

/-- Reads a declaration. -/
def json : Reader ResourceDefinition :=
  record.read

/-- Writes a declaration. -/
def toJson (d : ResourceDefinition) : List Char :=
  Json.writeObject [
    ("name", Json.Text.write d.name),
    ("type", d.kind.toJson),
    ("file", Json.Text.write d.file),
    ("compress", Json.writeBool d.compress)]

/-- A declaration from a text. -/
def ofText (text : String) : Except Fault ResourceDefinition :=
  json.ofWhole text

end ResourceDefinition

/-- The bitmap resources that are declared for a build. -/
structure ResourceManifest where
  media : List ResourceDefinition := []
deriving DecidableEq, Repr

namespace ResourceManifest

/-- A manifest as a record.  It may declare nothing. -/
def record : Record ResourceManifest (Option (List ResourceDefinition)) where
  blank := none
  fields := [
    ⟨"media", Option.isSome, fun _ text =>
      (Json.array ResourceDefinition.json text).map fun (v, rest) => (some v, rest)⟩]
  finish media := some ⟨media.getD []⟩

/-- Reads a manifest. -/
def json : Reader ResourceManifest :=
  record.read

/-- Writes a manifest. -/
def toJson (m : ResourceManifest) : List Char :=
  Json.writeObject [("media", Json.writeArray (m.media.map ResourceDefinition.toJson))]

/-- A manifest from a text. -/
def ofText (text : String) : Except Fault ResourceManifest :=
  json.ofWhole text

/-- A manifest as a text. -/
def toText (m : ResourceManifest) : String :=
  String.ofList m.toJson

end ResourceManifest

namespace Platform

/-- A platform as a record.  It may have no tags. -/
def record : Record Platform (Option (List String)) where
  blank := none
  fields := [
    ⟨"tags", Option.isSome, fun _ text =>
      (Json.array Json.string text).map fun (v, rest) => (some v, rest)⟩]
  finish tags := some ⟨tags.getD []⟩

/-- Reads a platform. -/
def json : Reader Platform :=
  record.read

/-- Writes a platform. -/
def toJson (p : Platform) : List Char :=
  Json.writeObject [("tags", Json.writeArray (p.tags.map Json.Text.write))]

end Platform

namespace PlatformTable

/-- A table as a record.  Its platforms have to be there. -/
def record : Record PlatformTable (Option Entries) where
  blank := none
  fields := [
    ⟨"platforms", Option.isSome, fun _ text =>
      (Json.entries Platform.json text).map fun (v, rest) => (some v, rest)⟩]
  finish entries := entries.map ofList

/-- Reads a table. -/
def json : Reader PlatformTable :=
  record.read

/-- Writes a table. -/
def toJson (t : PlatformTable) : List Char :=
  Json.writeObject [
    ("platforms", Json.writeObject (t.entries.map fun entry => (entry.1, entry.2.toJson)))]

/-- A table from a text. -/
def ofText (text : String) : Except Fault PlatformTable :=
  json.ofWhole text

/-- A table as a text. -/
def toText (t : PlatformTable) : String :=
  String.ofList t.toJson

end PlatformTable

end WatchBitmap
