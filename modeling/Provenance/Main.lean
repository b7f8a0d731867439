import Provenance.CommandLine.Command
import Provenance.Display.Plain
import Std.Time.Zoned

/-!
# Main

The program: it looks at the files around the working directory, the environment and the clock, runs
the command that its arguments spell, and prints what the command leaves. It does not ask any
version control, so that a scan finds its files by a walk.
-/

namespace Provenance.Main

open CommandLine

/-! ## Files -/

/-- The bytes of a file, none if it cannot be read. -/
def bytesAt (path : String) : IO (List UInt8) := do
  try return (← IO.FS.readBinFile path).toList
  catch _ => return []

/-- The entries of a folder. Only the content of assignment files is read. -/
partial def treeAt (path : String) : IO Tree := do
  try
    let mut tree := Tree.empty
    for entry in ← (← IO.FS.realPath path).readDir do
      let inner := path ++ "/" ++ entry.fileName
      match (← entry.path.symlinkMetadata).type with
      | .dir => tree := .folder entry.fileName (← treeAt inner) tree
      | .file =>
        let bytes ← if entry.fileName == dotenvName then bytesAt inner else pure []
        tree := .file entry.fileName bytes tree
      | _ => pure ()
    return tree
  catch _ => return .empty

/-- A disk with what is found at a path, without the content of its files. -/
def withPath (disk : Disk) (path : Path) : IO Disk := do
  try
    if ← (← IO.FS.realPath path.text).isDir then
      return { disk with root := disk.root.write (.folder (← treeAt path.text)) path.parts }
    else
      discard <| IO.FS.readBinFile path.text
      return disk.write path.text []
  catch _ => return disk

/-- The disk that a command with these arguments sees, with the content of assignment files only. -/
def outline (cwd : Path) (args : List String) : IO Disk := do
  let mut disk : Disk := { root := .empty, cwd }
  for path in cwd :: args.map fun arg => cwd.resolve (Path.ofString arg) do
    disk ← withPath disk path
  return disk

/-! ## Surroundings -/

/-- The variables of the environment. -/
def environment : IO (List (String × String)) := do
  let text := String.fromUTF8? (ByteArray.mk (← bytesAt "/proc/self/environ").toArray)
  return ((text.getD "").toList.splitOn '\x00').map fun entry =>
    (String.ofList (entry.takeWhile (· != '=')),
      String.ofList ((entry.dropWhile (· != '=')).drop 1))

/-- The local time. -/
def now : IO Timestamp := do
  let t ← Std.Time.PlainDateTime.now
  let microsecond := t.nanosecond.val / 1000
  match Timestamp.check t.year t.month.val t.day.val t.hour.val t.minute.val t.second.val
      microsecond with
  | .ok timestamp => return timestamp
  | .error _ => return ⟨1, 1, 1, 0, 0, 0, 0⟩

/-- What a command with these arguments sees around it. -/
def surroundings (args : List String) : IO Surroundings := do
  let cwd := Path.ofString (← IO.currentDir).toString
  let found : Surroundings := ⟨← outline cwd args, .absent, ← environment, ← now⟩
  let mut disk := found.disk
  for path in neededPaths found args do
    if disk.root.hasFile path.parts then
      disk := disk.write path.text (← bytesAt path.text)
  return { found with disk }

/-! ## Output -/

/-- How the program is used. -/
def usage : String :=
  "Usage: provenance file PATH [--json] | patterns PATH | " ++
    "scan [ROOT] [--json] [--workers N] [--exclude PATTERN] [--top N]"

/-- Prints how a command ended, and gives its status. -/
def report : Ending → IO Nat
  | .output o => do
    for printed in o.printed do
      for line in printed.lines do
        IO.println line
    IO.print o.written
    return o.status
  | .badUsage => do
    IO.eprintln usage
    return usageStatus
  | .badSettings (.notJson field) => do
    IO.eprintln ("Setting " ++ field ++ " is not JSON")
    return 1
  | .badSettings (.notText flaw) => do
    IO.eprintln (dotenvName ++ " is not UTF-8: " ++ flaw.reason)
    return 1
  | .badSettings (.refused refusals) => do
    for r in refusals do
      IO.eprintln ("Setting " ++ r.field ++ ": " ++ r.complaint.code)
    return 1
  | .broken fault => do
    IO.eprintln fault.message
    return 1

end Provenance.Main

def main (args : List String) : IO UInt32 := do
  let ending := Provenance.CommandLine.run (← Provenance.Main.surroundings args) args
  return UInt32.ofNat (← Provenance.Main.report ending)
