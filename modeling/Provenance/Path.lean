/-!
# Path

File paths: an anchor, which is empty for relative paths, and the parts between slashes. Empty parts
and single dots are not kept, so equal paths have equal spellings up to double dots, which only
`resolve` removes.
-/

namespace Provenance

/-- A file path. -/
structure Path where
  /-- Empty, one slash, or exactly two slashes. -/
  anchor : String
  parts : List String
  deriving DecidableEq

namespace Path

/-- The anchor of a spelled path: two leading slashes are kept, three or more are one. -/
def anchorOf : List Char → String
  | '/' :: '/' :: '/' :: _ => "/"
  | '/' :: '/' :: _ => "//"
  | '/' :: _ => "/"
  | _ => ""

/-- The path that a text spells. -/
def ofString (s : String) : Path where
  anchor := anchorOf s.toList
  parts := ((s.toList.splitOn '/').map String.ofList).filter fun part => part != "" && part != "."

/-- The parts of a path joined by slashes. -/
def joined (parts : List String) : String := "/".intercalate parts

/-- The spelling of a path; the empty path is a dot. -/
def text (p : Path) : String :=
  if p.anchor = "" ∧ p.parts = [] then "." else p.anchor ++ joined p.parts

/-- The path of the directory that holds a path. An anchor holds itself. -/
def parent (p : Path) : Path := { p with parts := p.parts.dropLast }

/-- The last part of a path, empty for an anchor by itself. -/
def name (p : Path) : String := p.parts.getLast?.getD ""

/-- A path continued below another. -/
def append (p : Path) (parts : List String) : Path := { p with parts := p.parts ++ parts }

/-- The path as seen from another one above it. -/
def relativeTo? (p base : Path) : Option Path :=
  if p.anchor = base.anchor ∧ base.parts.isPrefixOf p.parts then
    some ⟨"", p.parts.drop base.parts.length⟩
  else none

/-- The parts without double dots, each of which takes back the part before it. -/
def withoutDots (parts : List String) : List String :=
  parts.foldl (fun kept part => if part = ".." then kept.dropLast else kept ++ [part]) []

/-- The absolute path that a path means in a working directory. It begins with one slash, however
many are spelled. -/
def resolve (cwd p : Path) : Path where
  anchor := "/"
  parts := withoutDots (if p.anchor = "" then cwd.parts ++ p.parts else p.parts)

/-- The suffix of a file name: from its last point on, if there is something on both sides of it. -/
def suffixOfName (name : List Char) : List Char :=
  let ending := (name.reverse.takeWhile (· != '.')).reverse
  if ending = [] ∨ name.length ≤ ending.length + 1 then [] else '.' :: ending

/-- The suffix of the last part of a path. -/
def suffix (p : Path) : List Char := suffixOfName p.name.toList

end Path

end Provenance
