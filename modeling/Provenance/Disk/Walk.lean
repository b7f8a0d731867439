import Provenance.Disk

/-!
# Disk — Walk

The files below a folder, folder by folder: first its own files by name, then those of the folders
in it by name. Folders that hold what was generated or downloaded are left out.
-/

namespace Provenance.Disk

/-- The names of folders that are left out. -/
def skippedFolders : List String := [
  ".git", ".hg", ".svn", "node_modules", "__pycache__", ".venv", "venv", "env", ".tox",
  ".mypy_cache", ".pytest_cache", "dist", "build", ".idea", ".vscode", "target", "out", "coverage"]

/-- The names of the files of a folder. -/
def fileNames : Tree → List String
  | .empty => []
  | .file name _ rest => name :: fileNames rest
  | .folder _ _ rest => fileNames rest

/-- Names in order. -/
def byName (names : List String) : List String := names.mergeSort fun a b => decide (a ≤ b)

/-- What was found in folders, by the names of the folders in order. -/
def inFolders (found : List (String × List (List String))) : List (List String) :=
  (found.mergeSort fun a b => decide (a.1 ≤ b.1)).flatMap fun (name, files) =>
    files.map (name :: ·)

/-- The folders in a folder, each with the files below it in order. -/
def folderWalks : Tree → List (String × List (List String))
  | .empty => []
  | .file _ _ rest => folderWalks rest
  | .folder name entries rest =>
    if skippedFolders.contains name then folderWalks rest
    else
      (name, (byName (fileNames entries)).map ([·]) ++ inFolders (folderWalks entries)) ::
        folderWalks rest

/-- The files below a folder, in order, by the parts of their paths from there. -/
def walk (entries : Tree) : List (List String) :=
  (byName (fileNames entries)).map ([·]) ++ inFolders (folderWalks entries)

end Provenance.Disk
