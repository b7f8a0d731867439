import Provenance.Display.Markup
import Provenance.Display.Tag

/-!
# Display — Plain

What is printed on a console without styles: tags are left out, the cells of a row stand between
bars, and a curve is drawn with one bar for each file.
-/

namespace Provenance.Display

/-- A marked-up text without its tags. -/
def plain (s : String) : String :=
  let written := tags s
  let kept := s.toList.zipIdx.filter fun (_, place) => !written.any fun tag => tag.covers place
  String.ofList (kept.map fun (c, _) => c)

/-- The cells of a row. -/
def plainRow (cells : List String) : String := " | ".intercalate (cells.map plain)

/-- A share as a bar. -/
def bar (share : Int) : String := String.ofList (List.replicate (share.toNat / 2) '#')

/-- The lines of something that is printed. -/
def Printed.lines : Printed → List String
  | .text s => [plain s]
  | .blank => [""]
  | .table t => plain t.title :: plainRow t.columns :: t.rows.map plainRow
  | .panel p => [plain p.title, plain p.text]
  | .chart c => c.ys.map fun share => bar share ++ " " ++ percent share

end Provenance.Display
