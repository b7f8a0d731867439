/-!
# Failure

Why a file or a project pass has no analysis. Failures of single files never end a pass: the file is
skipped, and its failure is told in the report.
-/

namespace Provenance

/-- Why there is no analysis. -/
inductive Failure where
  /-- The file could not be loaded. -/
  | notLoaded (path reason : String)
  /-- The content is not text. -/
  | unreadable (path reason : String)
  /-- The content is binary or too large. -/
  | unsupported (path reason : String)
  /-- The pass was cancelled after some of its files. -/
  | cancelled (completed total : Int)
  /-- Anything else, in words. -/
  | other (message : String)
  deriving DecidableEq

namespace Failure

/-- A reason behind a colon, or nothing when there is none. -/
def behindColon (reason : String) : String := if reason = "" then "" else ": " ++ reason

/-- What is said of unreadable content; a path that is not known is left out. -/
def unreadableMessage (path reason : String) : String :=
  "Input " ++ (if path = "" then "" else "'" ++ path ++ "' ") ++ "is unreadable: " ++ reason

/-- A failure in words. -/
def message : Failure → String
  | .notLoaded path reason => "Could not read '" ++ path ++ "'" ++ behindColon reason
  | .unreadable path reason => unreadableMessage path reason
  | .unsupported path reason => unreadableMessage path reason
  | .cancelled completed total =>
    "Analysis cancelled after " ++ toString completed ++ " of " ++ toString total ++ " files"
  | .other message => message

/-- The kind of a failure, as reports name it. -/
def kind : Failure → String
  | .notLoaded _ _ => "ReadError"
  | .unreadable _ _ => "UnreadableInput"
  | .unsupported _ _ => "UnsupportedContent"
  | .cancelled _ _ => "CancellationRequested"
  | .other _ => "AicovError"

/-- The kinds that a failure belongs to, the narrowest first. Content that is not supported is
unreadable content, and every failure is of the widest kind. -/
def kinds : Failure → List String
  | .notLoaded _ _ => ["ReadError", "AicovError"]
  | .unreadable _ _ => ["UnreadableInput", "AicovError"]
  | .unsupported _ _ => ["UnsupportedContent", "UnreadableInput", "AicovError"]
  | .cancelled _ _ => ["CancellationRequested", "AicovError"]
  | .other _ => ["AicovError"]

/-- The kind of a failure is the narrowest it belongs to. -/
theorem head?_kinds (failure : Failure) : failure.kinds.head? = some failure.kind := by
  cases failure <;> rfl

/-- What is said of content that no reason is known for. -/
def notUtf8 : String := "not valid UTF-8 text"

/-- What is said of content with a zero character. -/
def binaryContent : String := "binary content"

/-- The status with which a command ends that fails. -/
def exitCode (_ : Failure) : Nat := 1

end Failure

end Provenance
