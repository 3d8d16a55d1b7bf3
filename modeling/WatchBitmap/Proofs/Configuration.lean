import Mathlib.Tactic.Common
import WatchBitmap.Config.Encoding
import WatchBitmap.Config.Resources
import WatchBitmap.Proofs.JsonValues

/-!
# Configuration is read as it was written

For each type with a writer `toJson` and a reader `json` there is a lemma `represents_toJson`: the
reader makes the value of what the writer wrote, wherever that stands.  A record's follows from
those of its fields, for the entries that are written name every field once and so fill in the
record.

* `PlatformTable.represents_toJson`, `ResourceManifest.represents_toJson`,
  `EncodeOptions.represents_toJson` — the three that are read as texts of their own.
* `ofText_toText` — **configuration survives being written and read.**
-/

namespace WatchBitmap

open Json (Represents Record represents_array represents_entries represents_string represents_bool
  represents_plain represents_carrying represents_writeOptional_string)

/-! ## Platforms -/

lemma Platform.represents_toJson (p : Platform) : Represents Platform.json p.toJson p := by
  have htags := represents_array fun (tag : String) (_ : tag ∈ p.tags) => represents_string tag
  exact Record.represents
    (.cons (.ofField (fun _ v => some v) rfl rfl (fun _ _ => rfl) htags) (.nil _)) rfl

/-- The platforms of a table are written in the order of their names, so inserting them one after
the other makes up the table again. -/
lemma PlatformTable.represents_toJson (t : PlatformTable) :
    Represents PlatformTable.json t.toJson t := by
  have hentries := represents_entries fun (entry : String × Platform) (_ : entry ∈ t.entries) =>
    entry.2.represents_toJson
  refine Record.represents
    (.cons (.ofField (fun _ v => some v) rfl rfl (fun _ _ => rfl) hentries) (.nil _)) ?_
  exact congrArg some t.ofList_entries

/-! ## Declared resources -/

lemma ResourceKind.represents_toJson (kind : ResourceKind) :
    Represents ResourceKind.json kind.toJson kind := by
  cases kind <;> exact represents_plain rfl

lemma ResourceDefinition.represents_toJson (d : ResourceDefinition) :
    Represents ResourceDefinition.json d.toJson d := by
  have hname := represents_string d.name
  have hkind := d.kind.represents_toJson
  have hfile := represents_string d.file
  have hcompress := represents_bool d.compress
  refine Record.represents (.cons (.ofField (fun p v => { p with name := some v }) rfl rfl ?_ hname)
    (.cons (.ofField (fun p v => { p with kind := some v }) rfl rfl ?_ hkind)
    (.cons (.ofField (fun p v => { p with file := some v }) rfl rfl ?_ hfile)
    (.cons (.ofField (fun p v => { p with compress := some v }) rfl rfl ?_ hcompress)
      (.nil _))))) rfl
  all_goals exact fun _ _ => rfl

lemma ResourceManifest.represents_toJson (m : ResourceManifest) :
    Represents ResourceManifest.json m.toJson m := by
  have hmedia := represents_array fun (d : ResourceDefinition) (_ : d ∈ m.media) =>
    d.represents_toJson
  exact Record.represents
    (.cons (.ofField (fun _ v => some v) rfl rfl (fun _ _ => rfl) hmedia) (.nil _)) rfl

/-! ## Encoder options -/

lemma Format.represents_toJson (f : Format) : Represents Format.json f.toJson f := by
  cases f <;> exact represents_plain rfl

lemma FormatChoice.represents_toJson (choice : FormatChoice) :
    Represents FormatChoice.json choice.toJson choice := by
  cases choice with
  | smallestIndexed => exact represents_plain rfl
  | fixed f => exact represents_carrying rfl (f.represents_toJson.map FormatChoice.fixed)

lemma Compression.represents_toJson (c : Compression) : Represents Compression.json c.toJson c := by
  cases c <;> exact represents_plain rfl

lemma EncodeOptions.represents_toJson (options : EncodeOptions) :
    Represents EncodeOptions.json options.toJson options := by
  have hformat := options.format.represents_toJson
  have hkey := represents_writeOptional_string options.colorKey
  have hcompression := options.compression.represents_toJson
  refine Record.represents
    (.cons (.ofField (fun p v => { p with format := some v }) rfl rfl ?_ hformat)
    (.cons (.ofField (fun p v => { p with colorKey := some v }) rfl rfl ?_ hkey)
    (.cons (.ofField (fun p v => { p with compression := some v }) rfl rfl ?_ hcompression)
      (.nil _)))) rfl
  all_goals exact fun _ _ => rfl

/-! ## Texts -/

/-- **Configuration survives being written and read**, whatever characters its names, tags, files
and selectors are made of. -/
theorem ofText_toText :
    (∀ t : PlatformTable, PlatformTable.ofText t.toText = .ok t) ∧
      (∀ m : ResourceManifest, ResourceManifest.ofText m.toText = .ok m) ∧
      ∀ options : EncodeOptions, EncodeOptions.ofText options.toText = .ok options :=
  ⟨fun t => t.represents_toJson.ofWhole, fun m => m.represents_toJson.ofWhole,
    fun options => options.represents_toJson.ofWhole⟩

example : (EncodeOptions.mk (.fixed .indexed4) (some "\"\\\n\x01é") .rows).toText
    = "\x7b\"format\":\x7b\"Fixed\":\"indexed-4bpp\"\x7d,"
      ++ "\"color_key\":\"\\\"\\\\\\n\\u0001é\",\"compression\":\"RowRle\"\x7d" := by
  decide

end WatchBitmap
