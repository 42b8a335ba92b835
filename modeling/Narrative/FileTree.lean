/-!
# File trees

Folders and files held in memory, and how a path leads to a file. A path is a list of names between
slashes. It starts at the root if it begins with a slash, else in the working folder; the empty name
and `.` stay where they are, `..` goes up, and nothing can be looked up in a file. A name has at most
255 bytes and a path at most 4095.
-/

namespace Narrative

/-- Why a path leads to no file. -/
inductive PathFault
  /-- there is no entry of that name -/
  | notFound
  /-- a name is looked up in a file -/
  | notFolder
  /-- the path ends at a folder -/
  | isFolder
  /-- a name or the path is too long -/
  | tooLong
  /-- the path holds the character that ends names -/
  | nul
  deriving DecidableEq

/-- The wording of a fault. -/
def PathFault.message : PathFault → String
  | .notFound => "No such file or directory (os error 2)"
  | .notFolder => "Not a directory (os error 20)"
  | .isFolder => "Is a directory (os error 21)"
  | .tooLong => "File name too long (os error 36)"
  | .nul => "file name contained an unexpected NUL byte"

/-- A file, or a folder with named entries. -/
inductive FileTree
  | file (bytes : ByteArray)
  | folder (entries : List (String × FileTree))

namespace FileTree

/-- A place in a tree: the node there, and the folders above it, the innermost first. -/
structure Place where
  node : FileTree
  above : List FileTree

/-- The root of the tree a place lies in. -/
def Place.root (place : Place) : Place := ⟨place.above.getLastD place.node, []⟩

/-- Follow one name. -/
def Place.step (place : Place) (name : String) : Except PathFault Place :=
  match place.node with
  | .file _ => .error .notFolder
  | .folder entries =>
    if name = "" ∨ name = "." then .ok place
    else if name = ".." then
      match place.above with
      | [] => .ok place
      | outer :: above => .ok ⟨outer, above⟩
    else if name.utf8ByteSize > 255 then .error .tooLong
    else
      match entries.lookup name with
      | some node => .ok ⟨node, place.node :: place.above⟩
      | none => .error .notFound

/-- The bytes of the file that a path leads to from a working folder. -/
def Place.read (place : Place) (path : String) : Except PathFault ByteArray := do
  if path.toList.contains '\x00' then throw .nul
  if path.isEmpty then throw .notFound
  if path.utf8ByteSize > 4095 then throw .tooLong
  let start := if path.startsWith "/" then place.root else place
  let reached ← (path.splitOn "/").foldlM Place.step start
  match reached.node with
  | .file bytes => return bytes
  | .folder _ => throw .isFolder

end FileTree

end Narrative
