import Provenance.Number.Binary64

/-!
# Settings

The thresholds of the detectors, what is discovered, and the bands of the display. Each setting has
its bounds in its type, so that settings outside them cannot be written down. What is not a number
lies within no bounds.
-/

namespace Provenance

/-! ## Bounds -/

/-- A count that is not below a bound. -/
abbrev AtLeast (bound : Nat) := { n : Nat // bound ≤ n }

/-- A percentage that parts one band from the next. -/
abbrev BandEdge := { n : Nat // n ≤ 100 }

/-- A number above zero. -/
abbrev AboveZero := { x : Binary64 // 0 < x }

/-- A share of a whole, not zero. -/
abbrev PositiveShare := { x : Binary64 // x ≤ 1 ∧ 0 < x }

/-- A share of a whole. -/
abbrev Share := { x : Binary64 // x ≤ 1 ∧ 0 ≤ x }

/-! ## Groups -/

/-- Thresholds of the comment detector. -/
structure CommentSettings where
  /-- How many comments of one template make a pattern. -/
  minTemplateRepeats : AtLeast 2 := ⟨3, by decide⟩
  /-- Comments with fewer words follow no template. -/
  minWords : AtLeast 1 := ⟨3, by decide⟩
  /-- The share of a comment's words that its code line repeats when the comment restates it. -/
  restateOverlap : PositiveShare := ⟨Binary64.ofQuotient 6 10, by decide +kernel⟩
  deriving DecidableEq

/-- Thresholds of the structure detector. -/
structure StructureSettings where
  /-- How many lines of one shape make a pattern. -/
  minRepeats : AtLeast 2 := ⟨3, by decide⟩
  /-- The greatest distance between two repetitions, in lines. -/
  window : AtLeast 2 := ⟨30, by decide⟩
  /-- Lines with fewer tokens have no shape of their own. -/
  minTokens : AtLeast 1 := ⟨4, by decide⟩
  /-- The lines of a block. -/
  blockLines : AtLeast 2 := ⟨3, by decide⟩
  /-- How many blocks of one shape make a pattern. -/
  minBlockRepeats : AtLeast 2 := ⟨2, by decide⟩
  deriving DecidableEq

/-- Thresholds of the naming detector. -/
structure NamingSettings where
  /-- How many suspicious names make a pattern. -/
  minMatches : AtLeast 1 := ⟨2, by decide⟩
  /-- The lines of a block. -/
  blockLines : AtLeast 4 := ⟨15, by decide⟩
  /-- Blocks with fewer names of a convention are not judged. -/
  minNames : AtLeast 2 := ⟨6, by decide⟩
  /-- The share of other conventions in the rest of the file that makes a uniform block stand out.
  -/
  minContrast : Share := ⟨Binary64.ofQuotient 25 100, by decide +kernel⟩
  /-- The share of names with a stock verb that is too large. -/
  verboseFraction : PositiveShare := ⟨Binary64.ofQuotient 15 100, by decide +kernel⟩
  deriving DecidableEq

/-- Thresholds of the complexity detector. -/
structure ComplexitySettings where
  /-- The lines of a block. -/
  blockLines : AtLeast 4 := ⟨12, by decide⟩
  /-- Blocks with fewer lines are not judged. -/
  minBlockLines : AtLeast 4 := ⟨8, by decide⟩
  /-- The greatest variation of line lengths in a uniform block. -/
  maxVariation : AboveZero := ⟨Binary64.ofQuotient 35 100, by decide +kernel⟩
  maxLineLength : AtLeast 20 := ⟨100, by decide⟩
  /-- The greatest depth of nesting. -/
  maxDepth : AtLeast 1 := ⟨4, by decide⟩
  /-- The share of shape checks that a uniform block passes. -/
  minShape : PositiveShare := ⟨Binary64.ofQuotient 8 10, by decide +kernel⟩
  deriving DecidableEq

/-- What is discovered, and how it is worked on. -/
structure DiscoverySettings where
  /-- The suffixes of source files. -/
  includeExtensions : List String := [
    ".py", ".js", ".jsx", ".ts", ".tsx", ".java", ".c", ".cc", ".cpp", ".h", ".hpp", ".cs", ".go",
    ".rs", ".rb", ".php", ".swift", ".kt", ".scala", ".sh", ".sql", ".lua", ".vue", ".html", ".css",
    ".scss"]
  /-- The patterns of paths and names that are left out. -/
  excludePatterns : List String :=
    ["*.min.js", "*.lock", "*.generated.*", "dist/*", "build/*", "vendor/*"]
  /-- Larger files are skipped; in bytes. -/
  maxFileSize : AtLeast 1 := ⟨1048576, by decide⟩
  /-- How many files are analysed at a time. -/
  workers : AtLeast 1 := ⟨4, by decide⟩
  deriving DecidableEq

/-- The edges of the bands that generated shares are coloured by. -/
structure BandSettings where
  high : BandEdge := ⟨70, by decide⟩
  medium : BandEdge := ⟨40, by decide⟩
  deriving DecidableEq

/-- All settings. -/
structure Settings where
  comment : CommentSettings := {}
  structural : StructureSettings := {}
  naming : NamingSettings := {}
  complexity : ComplexitySettings := {}
  discovery : DiscoverySettings := {}
  bands : BandSettings := {}
  deriving DecidableEq

/-- The settings that hold where none are given. -/
def Settings.standard : Settings := {}

instance : Inhabited Settings := ⟨.standard⟩

end Provenance
