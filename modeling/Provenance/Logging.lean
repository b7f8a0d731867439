/-!
# Logging

The names and the levels of loggers. All loggers stand below one root, which takes no part in what
other libraries log.
-/

namespace Provenance.Logging

/-- The name of the root. -/
def root : String := "aicov_cli"

/-- The name of a logger below the root. A name that begins with that of the root stays as it is. -/
def loggerName : Option String → String
  | none => root
  | some name => if root.toList.isPrefixOf name.toList then name else root ++ "." ++ name

/-- What is logged. -/
inductive Level where
  | debug
  | warning
  | error
  deriving DecidableEq

/-- The number of a level. -/
def Level.number : Level → Nat
  | .debug => 10
  | .warning => 30
  | .error => 40

/-- The level that is asked for; quiet wins over verbose. -/
def level (verbose quiet : Bool) : Level :=
  if quiet then .error else if verbose then .debug else .warning

/-- How the root is set up. -/
structure Setup where
  name : String
  level : Level
  handlers : Nat
  propagates : Bool

/-- The root set up anew: the handlers that it had are replaced by one. -/
def setup (verbose quiet : Bool) : Setup := ⟨root, level verbose quiet, 1, false⟩

end Provenance.Logging
