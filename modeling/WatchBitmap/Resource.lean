import WatchBitmap.Decoding
import WatchBitmap.EncodeError
import WatchBitmap.Format
import WatchBitmap.Platform
import WatchBitmap.Quoted

/-!
# Declared resources

A resource declares a file and one of three kinds; kind, name and platform decide how the file's
picture is encoded.

* `ResourceKind`, `ResourceDefinition`, `ResourceObject` — what is declared, and what becomes of
  it.
* `BuildContext` — what all resources of a build share.
* `ResourceDefinition.encodeOptions` — the encoder options that a declaration amounts to.
* `EncodeOptions.pixelMode` — the form in which the decoder is to hand over the picture.
-/

namespace WatchBitmap

/-- The three kinds of resources. -/
inductive ResourceKind where
  /-- One bit per pixel. -/
  | pbi
  /-- Eight bits per pixel on a color display, otherwise one. -/
  | pbi8
  /-- The narrowest indexed format, with the key that the resource's name mentions. -/
  | pngTrans
deriving DecidableEq, Repr

namespace ResourceKind

/-- The spelling of a kind in a manifest. -/
def name : ResourceKind → String
  | pbi => "pbi"
  | pbi8 => "pbi8"
  | pngTrans => "png-trans"

/-- The kind of a given spelling. -/
def ofName? (name : String) : Option ResourceKind :=
  [pbi, pbi8, pngTrans].find? fun kind => kind.name == name

/-- What is said about a spelling of no kind. -/
def unknownMessage (name : String) : String :=
  "unknown resource type '" ++ name ++ "'"

@[simp] theorem ofName?_name (kind : ResourceKind) : ofName? kind.name = some kind := by
  cases kind <;> decide

end ResourceKind

/-- A bitmap resource as a manifest declares it. -/
structure ResourceDefinition where
  name : String
  kind : ResourceKind
  /-- Where its picture is. -/
  file : String
  /-- Whether its rows are to be compressed. -/
  compress : Bool := false
deriving DecidableEq, Repr

/-- A generated resource. -/
structure ResourceObject where
  name : String
  /-- The blob. -/
  data : List UInt8
deriving DecidableEq, Repr

/-- Why a resource could not be generated.  Each error knows the name of its resource. -/
inductive ResourceError where
  | encode (name : String) (cause : EncodeError)
  | decode (name : String) (cause : DecodeError)
  | unknownPlatform (name platform : String)
deriving DecidableEq, Repr

namespace ResourceError

/-- The resource that failed. -/
def resourceName : ResourceError → String
  | encode name _ => name
  | decode name _ => name
  | unknownPlatform name _ => name

/-- What went wrong, apart from the resource. -/
def reason : ResourceError → String
  | encode _ cause => cause.message
  | decode _ cause => cause.message
  | unknownPlatform _ platform => "unknown platform '" ++ platform ++ "'"

/-- The wording of an error. -/
def message (e : ResourceError) : String :=
  "resource " ++ e.resourceName ++ ": " ++ e.reason

end ResourceError

/-- What all resources of a build share: the platform that they are for, and the platforms that
are known. -/
structure BuildContext where
  platform : String
  platforms : PlatformTable

/-- How a context is shown: by its platform alone. -/
def BuildContext.text (context : BuildContext) : String :=
  "BuildContext \x7b platform: " ++ Quoted.write context.platform ++ ", .. \x7d"

/-- Whether rows are to be compressed, as an encoder option. -/
def Compression.ofBool : Bool → Compression
  | false => .none
  | true => .rows

namespace ResourceDefinition

/-- The format that a declaration asks for. -/
def formatChoice (d : ResourceDefinition) (context : BuildContext) :
    Except ResourceError FormatChoice :=
  match d.kind with
  | .pbi => .ok (.fixed .monochrome)
  | .pbi8 =>
      match context.platforms.supportsColor? context.platform with
      | some true => .ok (.fixed .indexed8)
      | some false => .ok (.fixed .monochrome)
      | none => .error (.unknownPlatform d.name context.platform)
  | .pngTrans => .ok .smallestIndexed

/-- The key that a declaration asks for.  A keyed resource has to mention one in its name. -/
def colorKey (d : ResourceDefinition) : Except ResourceError (Option ColorKey) :=
  match d.kind with
  | .pngTrans =>
      match ColorKey.ofResourceName? d.name with
      | some key => .ok (some key)
      | none => .error (.encode d.name (.invalidSelector d.name))
  | _ => .ok none

/-- **The encoder options of a declaration.** -/
def encodeOptions (d : ResourceDefinition) (context : BuildContext) :
    Except ResourceError EncodeOptions := do
  let format ← d.formatChoice context
  let key ← d.colorKey
  return ⟨format, key.map ColorKey.name, .ofBool d.compress⟩

end ResourceDefinition

/-- A monochrome target gets its bits from the decoder. -/
def EncodeOptions.pixelMode (options : EncodeOptions) : PixelMode :=
  if options.format = .fixed .monochrome then .mono else .rgba

end WatchBitmap
