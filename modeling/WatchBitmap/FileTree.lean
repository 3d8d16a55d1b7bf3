import WatchBitmap.Path

/-!
# File trees

The files that a build may read.  Paths are followed name by name from the top, so a path that
leads through something that is no directory is refused, also where a later name would lead back.

* `FileTree` — files and directories by where they are.
* `FileError` — why a file cannot be read, worded by `FileError.message`.
* `FileTree.read`, `FileTree.readText` — the bytes of a file, and its text.
-/

namespace WatchBitmap

/-- Why a file cannot be read. -/
inductive FileError where
  | notFound
  | notADirectory
  | isADirectory
  | nameTooLong
  /-- The path has a character that no path may have. -/
  | zeroInName
  | notText
deriving DecidableEq, Repr

/-- The wording of an error. -/
def FileError.message : FileError → String
  | notFound => "No such file or directory (os error 2)"
  | notADirectory => "Not a directory (os error 20)"
  | isADirectory => "Is a directory (os error 21)"
  | nameTooLong => "File name too long (os error 36)"
  | zeroInName => "file name contained an unexpected NUL byte"
  | notText => "stream did not contain valid UTF-8"

/-- What is at a place. -/
inductive FileNode where
  | file (bytes : List UInt8)
  | directory
deriving DecidableEq, Repr

/-- Where something is: the names that lead to it from the top. -/
abbrev Place := List String

/-- Files and directories by where they are.  What leads to one of them is a directory too. -/
structure FileTree where
  nodes : List (Place × FileNode)
deriving DecidableEq, Repr

namespace FileTree

/-- The most bytes of one name. -/
def maxName : Nat := 255

/-- The most bytes of a path. -/
def maxPath : Nat := 4095

/-- The tree of some paths, each with the bytes of a file or with nothing for a directory. -/
def ofPaths (paths : List (String × Option (List UInt8))) : FileTree :=
  ⟨paths.map fun (path, bytes?) =>
    ((Path.parts path).filter fun name => !name.isEmpty && name != ".",
      match bytes? with
      | some bytes => .file bytes
      | none => .directory)⟩

/-- What is at a place. -/
def at? (tree : FileTree) (place : Place) : Option FileNode :=
  match tree.nodes.lookup place with
  | some node => some node
  | none =>
      if place.isEmpty || tree.nodes.any fun (other, _) => place.isPrefixOf other then
        some .directory
      else
        none

/-- Where a walk has come to.  Above the top of the tree there are directories, and nothing is
known of what else they hold. -/
inductive Position where
  | inside (place : Place) (node : FileNode)
  | above
deriving DecidableEq, Repr

/-- What is where a walk has come to. -/
def Position.node : Position → FileNode
  | inside _ node => node
  | above => .directory

/-- Goes to a place, if there is something. -/
def goTo (tree : FileTree) (place : Place) : Except FileError Position :=
  match tree.at? place with
  | some node => .ok (.inside place node)
  | none => .error .notFound

/-- One step of a walk.  It starts from a directory; an empty name or a dot stays there, two dots
go up. -/
def step (tree : FileTree) (position : Position) (name : String) : Except FileError Position :=
  if position.node ≠ .directory then .error .notADirectory
  else if name = "" ∨ name = "." then .ok position
  else if name.utf8ByteSize > maxName then .error .nameTooLong
  else
    match position with
    | .above => if name = ".." then .ok .above else .error .notFound
    | .inside place _ =>
        if name = ".." then
          if place.isEmpty then .ok .above else tree.goTo place.dropLast
        else
          tree.goTo (place ++ [name])

/-- The end of a walk. -/
def walk (tree : FileTree) : Position → List String → Except FileError Position
  | position, [] => .ok position
  | position, name :: names => do
      let position ← tree.step position name
      walk tree position names

/-- **Following a path** from the top of the tree.  Outside of it, at absolute paths, there is
nothing but directories that lead nowhere. -/
def follow (tree : FileTree) (path : String) : Except FileError FileNode := do
  if path.toList.contains '\x00' then throw .zeroInName
  if path.isEmpty then throw .notFound
  if path.utf8ByteSize > maxPath then throw .nameTooLong
  let start := if Path.isAbsolute path then .above else .inside [] .directory
  return (← tree.walk start (Path.parts path)).node

/-- The bytes of the file at a path. -/
def read (tree : FileTree) (path : String) : Except FileError (List UInt8) := do
  match ← tree.follow path with
  | .file bytes => return bytes
  | .directory => throw .isADirectory

/-- The text of the file at a path. -/
def readText (tree : FileTree) (path : String) : Except FileError String := do
  let bytes ← tree.read path
  match String.fromUTF8? (ByteArray.mk bytes.toArray) with
  | some text => return text
  | none => throw .notText

end FileTree

end WatchBitmap
