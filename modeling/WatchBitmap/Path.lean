/-!
# Paths

A path is a text; slashes part it into names.

* `Path.parts` — what stands between the slashes, empty names included.
* `Path.join` — a path seen from a directory.
* `Path.components` — what identifies a path: two paths with the same components are the same
  path, whatever is on the disk.
-/

namespace WatchBitmap.Path

/-- What stands between the slashes of a path. -/
def partsOf : List Char → List (List Char)
  | [] => [[]]
  | c :: rest =>
      if c = '/' then
        [] :: partsOf rest
      else
        match partsOf rest with
        | [] => [[c]]
        | part :: parts => (c :: part) :: parts

/-- The names of a path, as they are written. -/
def parts (path : String) : List String :=
  (partsOf path.toList).map String.ofList

/-- A path that does not depend on a directory. -/
def isAbsolute (path : String) : Bool :=
  path.toList.head? == some '/'

/-- **A path seen from a directory.**  An absolute path stays what it is; otherwise one slash
stands between the two, unless the directory has no name or ends in one already. -/
def join (directory path : String) : String :=
  if isAbsolute path then path
  else if directory.isEmpty || directory.toList.getLast? == some '/' then directory ++ path
  else directory ++ "/" ++ path

/-- **What identifies a path.**  Empty names do not count, and a dot counts only in front. -/
def components (path : String) : List String :=
  let named := (parts path).filter fun name => !name.isEmpty
  let inner (names : List String) := names.filter fun name => name != "."
  if isAbsolute path then
    "/" :: inner named
  else
    match named with
    | [] => []
    | name :: names => name :: inner names

end WatchBitmap.Path
