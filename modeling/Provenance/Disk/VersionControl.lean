import Provenance.Tree

/-!
# Disk — VersionControl

What version control answers about a folder, and what is read from its answers. Which files it
tracks, which ones it ignores and where its repositories lie is its own affair; all that is read are
the paths of the files that it lists.
-/

namespace Provenance

/-- Version control, by what it answers about a folder of a tree. A folder is told by the parts of
its path. -/
structure VersionControl where
  /-- Whether the folder is there and lies in a repository. -/
  hasRepository : Tree → List String → Bool
  /-- The listing of the files below the folder that are tracked, or neither tracked nor ignored:
  the path of each from there, with a zero character behind it. A failed command has none. -/
  listing? : Tree → List String → Option String

/-- The files in a listing, each of them once, in the order of their paths. -/
def listedFiles (listing : String) : List String :=
  let files := ((listing.toList.splitOn '\x00').map String.ofList).filter fun file => file != ""
  files.eraseDups.mergeSort fun a b => decide (a ≤ b)

namespace VersionControl

/-- The files that version control lists below a folder. It lists none outside of its repositories,
and none where its command fails. -/
def files? (control : VersionControl) (root : Tree) (folder : List String) :
    Option (List String) :=
  if control.hasRepository root folder then (control.listing? root folder).map listedFiles else none

/-- Version control that has no repositories. -/
def absent : VersionControl where
  hasRepository _ _ := false
  listing? _ _ := none

end VersionControl

end Provenance
