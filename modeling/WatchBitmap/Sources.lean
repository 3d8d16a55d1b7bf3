import WatchBitmap.Compile
import WatchBitmap.Config.Resources
import WatchBitmap.FileTree

/-!
# Where pictures and configuration come from

* `FileTree.loadPicture` — the picture of a file.
* `FileTree.supply` — pictures of a build, from the files below a directory.
* `FileTree.loadConfig` — configuration from a JSON file.
* `memorySupply` — pictures that are at hand already.
-/

namespace WatchBitmap

/-- Why configuration cannot be had. -/
inductive ConfigError where
  | io (path : String) (cause : FileError)
  | text (fault : Json.Fault)
deriving DecidableEq, Repr

/-- What is said about a file that cannot be read. -/
def ConfigError.unreadable (path : String) (cause : FileError) : String :=
  "Failed to read config " ++ path ++ ": " ++ cause.message

namespace FileTree

/-- The picture of the file at a path. -/
def loadPicture (tree : FileTree) (decoder : Decoder) (path : String) (mode : PixelMode) :
    Except DecodeError PixelBuffer :=
  match tree.read path with
  | .error cause => .error (.io (path ++ ": " ++ cause.message))
  | .ok bytes => decoder bytes mode

/-- **The pictures of a build**, each from the file that its resource declares, seen from a
directory. -/
def supply (tree : FileTree) (decoder : Decoder) (root : String) : Supply Unit :=
  .ofFunction fun d mode => tree.loadPicture decoder (Path.join root d.file) mode

/-- **Configuration from a file.** -/
def loadConfig {α : Type} (tree : FileTree) (ofText : String → Except Json.Fault α)
    (path : String) : Except ConfigError α :=
  match tree.readText path with
  | .error cause => .error (.io path cause)
  | .ok text => (ofText text).mapError .text

/-- A manifest from a file. -/
def loadManifest (tree : FileTree) (path : String) : Except ConfigError ResourceManifest :=
  tree.loadConfig ResourceManifest.ofText path

/-- A platform table from a file. -/
def loadPlatforms (tree : FileTree) (path : String) : Except ConfigError PlatformTable :=
  tree.loadConfig PlatformTable.ofText path

end FileTree

/-- The picture at hand for a file.  Of two whose paths are the same the later counts. -/
def pictureFor? (pictures : List (String × PixelBuffer)) (file : String) : Option PixelBuffer :=
  (pictures.reverse.find? fun picture =>
    Path.components picture.1 == Path.components file).map Prod.snd

/-- Pictures that are at hand already, by the paths of their files.  The supply remembers which
resources asked, and in which mode. -/
def memorySupply (pictures : List (String × PixelBuffer)) : Supply (List (String × PixelMode)) :=
  fun d mode asked =>
    let asked := asked ++ [(d.name, mode)]
    match pictureFor? pictures d.file with
    | some picture => (.ok picture, asked)
    | none => (.error (.io d.file), asked)

end WatchBitmap
