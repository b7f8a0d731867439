import Provenance.Failure
import Provenance.Text.Utf8

/-!
# Source — Content

The content of a file, as text or as bytes, and the source text it holds.
-/

namespace Provenance

open Text

/-- The content of a file. -/
inductive Content where
  | text (cs : List Char)
  | bytes (bs : List UInt8)
  deriving DecidableEq

namespace Content

/-- What is said of bytes with a flaw. -/
def flawReason (flaw : Utf8.Flaw) : String := Failure.notUtf8 ++ " (" ++ flaw.reason ++ ")"

/-- The source text of some content. A zero byte or a zero character marks binary content, and is
sought before anything else; bytes are read as UTF-8 behind an optional byte-order mark. -/
def source (path : String) : Content → Except Failure (List Char)
  | .text cs =>
    if cs.contains '\x00' then .error (.unsupported path Failure.binaryContent) else .ok cs
  | .bytes bs =>
    if bs.contains 0 then .error (.unsupported path Failure.binaryContent)
    else match Utf8.decode (Utf8.dropMark bs) with
      | .error flaw => .error (.unreadable path (flawReason flaw))
      | .ok cs => .ok cs

end Content

end Provenance
