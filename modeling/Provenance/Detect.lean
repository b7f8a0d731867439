import Provenance.Detect.Comment
import Provenance.Detect.Complexity
import Provenance.Detect.Naming
import Provenance.Detect.Structure

/-!
# Detect

The detectors, one for each kind of pattern. They see the lines of a file and the settings, and
nothing of each other.
-/

namespace Provenance.Detect

/-- What the detector of a kind finds. -/
def findings (settings : Settings) (ls : List Line) : PatternKind → Checked (List Finding)
  | .comment => Comment.detect settings.comment ls
  | .structural => Structure.detect settings.structural ls
  | .naming => Naming.detect settings.naming ls
  | .complexity => Complexity.detect settings.complexity ls

/-- The patterns of one kind. -/
def patternsOf (settings : Settings) (ls : List Line) (kind : PatternKind) :
    Checked (List Pattern) := do
  (← findings settings ls kind).mapM Finding.check

/-- The patterns of all kinds, kind by kind. -/
def patterns (settings : Settings) (ls : List Line) : Checked (List Pattern) := do
  return (← PatternKind.all.mapM (patternsOf settings ls)).flatten

end Provenance.Detect
