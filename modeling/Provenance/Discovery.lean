import Provenance.Disk.VersionControl
import Provenance.Disk.Walk
import Provenance.Glob
import Provenance.Settings
import Provenance.Text.Case

/-!
# Discovery

The source files below a folder. Where version control lists files they are sought among these,
elsewhere by a walk. A file is a source file by its suffix in any letter case, and is left out when
an exclude pattern fits its path or its name. What is listed need not be there any more, so only
files on disk count.
-/

namespace Provenance

/-- The name at the end of a relative path. -/
def lastName (relative : String) : String :=
  String.ofList ((relative.toList.splitOn '/').getLastD [])

/-- Whether one of the patterns fits a relative path or the name at its end. -/
def isExcluded (patterns : List String) (relative : String) : Bool :=
  patterns.any fun p => Glob.fits p relative || Glob.fits p (lastName relative)

/-- Whether a relative path has one of the suffixes, in any letter case. -/
def isIncluded (extensions : List String) (relative : String) : Bool :=
  (extensions.map Text.lowerString).contains
    (String.ofList (Text.lower (Path.ofString relative).suffix))

/-- The relative paths of the files that are considered below a folder. -/
def consideredFiles (control : VersionControl) (root : Tree) (folder : List String) :
    List String :=
  match control.files? root folder with
  | some listed => listed
  | none =>
    match root.folder? folder with
    | some entries => (Disk.walk entries).map Path.joined
    | none => []

/-- The source files below a folder. -/
def discover (control : VersionControl) (disk : Disk) (settings : DiscoverySettings)
    (root : String) : List Path :=
  let top := disk.resolve root
  (consideredFiles control disk.root top.parts).filterMap fun relative =>
    let path := top.append (Path.ofString relative).parts
    if isIncluded settings.includeExtensions relative &&
        !isExcluded settings.excludePatterns relative && disk.root.hasFile path.parts then
      some path
    else none

end Provenance
