import LedPattern.Text.Basic
/-!
Files and folders, and where a path leads among them. A path is followed name by name, and whatever
has a further name behind it must be a folder: `a/../b` leads nowhere unless there is a folder `a`.
-/
namespace LedPattern
namespace CommandLine

/-- Why a file cannot be read or written. -/
inductive FileError where
  | notFound
  | isFolder
  | notFolder
  | nameTooLong
  /-- What the bytes hold is no text. -/
  | notText
  /-- Anything else that the system may say. -/
  | other (message : Text)
deriving DecidableEq, Repr

namespace FileError

def message : FileError → Text
  | notFound => "No such file or directory (os error 2)".toList
  | isFolder => "Is a directory (os error 21)".toList
  | notFolder => "Not a directory (os error 20)".toList
  | nameTooLong => "File name too long (os error 36)".toList
  | notText => "stream did not contain valid UTF-8".toList
  | other message => message

end FileError

/-- A place in a tree, by the names on the way down from the root. -/
abbrev Place := List Text

/-- What can stand at a place. -/
inductive Entry where
  | folder
  | file (bytes : List UInt8)
  /-- Takes whatever is written to it and is always empty. -/
  | sink
deriving DecidableEq, Repr

structure FileTree where
  /-- The working folder: relative paths start here. -/
  location : Place
  entries : List (Place × Entry)
deriving DecidableEq, Repr

namespace FileTree

/-- A place on the way to another one. -/
def isOnTheWay (tree : FileTree) (place : Place) : Bool :=
  place.isPrefixOf tree.location || tree.entries.any fun (other, _) => place.isPrefixOf other

/-- What stands at a place. The places on the way to an entry are folders without being listed. -/
def find? (tree : FileTree) (place : Place) : Option Entry :=
  match tree.entries.lookup place with
  | some entry => some entry
  | none => if tree.isOnTheWay place then some .folder else none

/-- The most bytes that a name may have. -/
def maxName : Nat := 255

/-- A path must have fewer bytes than this. -/
def maxPath : Nat := 4096

def hasLongName (place : Place) : Bool :=
  match place.getLast? with
  | some name => maxName < Text.byteLength name
  | none => false

/-- What stands at a place, or why nothing does. -/
def look (tree : FileTree) (place : Place) : Except FileError Entry :=
  if hasLongName place then .error .nameTooLong
  else
    match tree.find? place with
    | some entry => .ok entry
    | none => .error .notFound

/-- One name on from a place, which must be a folder. There is nothing above the root but itself. -/
def enter (tree : FileTree) (place : Place) (name : Text) : Except FileError Place :=
  match tree.look place with
  | .error e => .error e
  | .ok .folder =>
    .ok (if name = ['.'] then place
      else if name = ['.', '.'] then place.dropLast
      else place ++ [name])
  | .ok _ => .error .notFolder

/-- The names along a path; slashes in a row count as one. -/
def names (path : Text) : List Text :=
  (path.splitOn '/').filter fun name => !name.isEmpty

/-- The place that a path leads to, whether or not anything stands there. -/
def follow (tree : FileTree) (path : Text) : Except FileError Place :=
  if maxPath ≤ Text.byteLength path then .error .nameTooLong
  else
    (names path).foldlM tree.enter (if path.head? = some '/' then [] else tree.location)

/-- A path that ends in a slash can only be meant for a folder. -/
def asksFolder (path : Text) : Bool := path.getLast? = some '/'

/-- The bytes of a file. -/
def read (tree : FileTree) (path : Text) : Except FileError (List UInt8) := do
  let place ← tree.follow path
  match ← tree.look place with
  | .folder => .error .isFolder
  | .file bytes => if asksFolder path then .error .notFolder else .ok bytes
  | .sink => if asksFolder path then .error .notFolder else .ok []

/-- The tree with one file replaced or added. -/
def put (tree : FileTree) (place : Place) (bytes : List UInt8) : FileTree :=
  { tree with entries := (place, .file bytes) :: tree.entries.filter fun entry => entry.1 ≠ place }

theorem find?_put_self (tree : FileTree) (place : Place) (bytes : List UInt8) :
    (tree.put place bytes).find? place = some (.file bytes) := by
  simp [put, find?]

/-- Replaces the bytes of a file, which need not be there yet. A path that asks for a folder is
refused before its last name is looked at. -/
def write (tree : FileTree) (path : Text) (bytes : List UInt8) : Except FileError FileTree := do
  let place ← tree.follow path
  if asksFolder path then .error .isFolder
  else
    match tree.look place with
    | .ok .folder => .error .isFolder
    | .ok (.file _) => .ok (tree.put place bytes)
    | .ok .sink => .ok tree
    | .error .notFound => .ok (tree.put place bytes)
    | .error e => .error e

/-- A tree with a working folder among the temporary files, and with what stands in that folder. -/
def ofWorkingFolder (entries : List (Place × Entry)) : FileTree :=
  let location := ["tmp".toList, "work".toList]
  { location
    entries := (["dev".toList, "null".toList], .sink) ::
      entries.map fun (place, entry) => (location ++ place, entry) }

/-- The files in the working folder itself, by name. -/
def workingFiles (tree : FileTree) : List (Text × List UInt8) :=
  tree.entries.filterMap fun (place, entry) =>
    match place.getLast?, entry with
    | some name, .file bytes => if place.dropLast = tree.location then some (name, bytes) else none
    | _, _ => none

end FileTree
end CommandLine
end LedPattern
