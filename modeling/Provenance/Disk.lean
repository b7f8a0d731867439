import Provenance.Failure
import Provenance.Path
import Provenance.Source.Content
import Provenance.Tree

/-!
# Disk

The files that a program sees: a tree, and the directory that relative paths begin in. Loading a
file goes along its path step by step, as the system does, and tells the first obstacle.
-/

namespace Provenance

/-- The files that a program sees. -/
structure Disk where
  root : Tree
  /-- The directory that relative paths begin in. -/
  cwd : Path

/-! ## Going along a path -/

/-- Why nothing can be read at a path. -/
inductive Obstacle where
  | missing
  | isFolder
  | notFolder
  deriving DecidableEq

/-- An obstacle in words. -/
def Obstacle.reason : Obstacle → String
  | .missing => "No such file or directory"
  | .isFolder => "Is a directory"
  | .notFolder => "Not a directory"

/-- What is reached from a node by going along the parts of a path. `above` holds the folders above
the node, the nearest one first; above the topmost folder is that folder again. -/
def reach (above : List Tree) (node : Node) : List String → Except Obstacle Node
  | [] => .ok node
  | part :: rest =>
    match node with
    | .file _ => .error .notFolder
    | .folder entries =>
      if part = "" ∨ part = "." then reach above node rest
      else if part = ".." then
        match above with
        | [] => reach [] node rest
        | t :: ts => reach ts (.folder t) rest
      else match entries.find? part with
        | none => .error .missing
        | some next => reach (entries :: above) next rest

namespace Disk

/-- What is at a spelled path. -/
def node? (disk : Disk) (path : String) : Except Obstacle Node :=
  let parts := (path.toList.splitOn '/').map String.ofList
  if path = "" then .error .missing
  else if Path.anchorOf path.toList = "" then
    reach [] (.folder disk.root) (disk.cwd.parts ++ parts)
  else reach [] (.folder disk.root) parts

/-! ## Loading -/

/-- The size that the system tells of a folder. -/
def folderSize : Nat := 4096

/-- The failure of content that is too large. -/
def tooLarge (path : String) (size : Nat) : Failure :=
  .unsupported path ("file too large (" ++ Nat.repr size ++ " bytes)")

/-- The source text of a file. The size is looked at before anything is read. -/
def load (disk : Disk) (path : String) (maxSize : Int) : Except Failure (List Char) :=
  match disk.node? path with
  | .error obstacle => .error (.notLoaded path obstacle.reason)
  | .ok (.folder _) =>
    if maxSize < folderSize then .error (tooLarge path folderSize)
    else .error (.notLoaded path Obstacle.isFolder.reason)
  | .ok (.file bytes) =>
    if maxSize < bytes.length then .error (tooLarge path bytes.length)
    else (Content.bytes bytes).source path

/-- The absolute path that a spelled path means. -/
def resolve (disk : Disk) (path : String) : Path := disk.cwd.resolve (Path.ofString path)

/-! ## Changes -/

/-- A disk with a file written. -/
def write (disk : Disk) (path : String) (bytes : List UInt8) : Disk :=
  { disk with root := disk.root.write (.file bytes) (disk.resolve path).parts }

/-- A disk with a file deleted. -/
def delete (disk : Disk) (path : String) : Disk :=
  { disk with root := disk.root.remove (disk.resolve path).parts }

end Disk

end Provenance
