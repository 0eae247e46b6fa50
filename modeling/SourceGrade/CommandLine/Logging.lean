import SourceGrade.Text.Basic
/-!
# Logging

The names of loggers, and the level and outputs of the root logger.
-/

namespace SourceGrade

namespace Logger

/-- The name of the root logger. -/
def rootName : Text := "quality_insight"

/-- The name of a logger: it is below the root, unless it begins like it. -/
def name (requested? : Option Text) : Text :=
  match requested? with
  | none => rootName
  | some t => if Text.startsWith rootName t then t else rootName ++ '.' :: t

end Logger

/-- How much is logged. -/
inductive Verbosity where
  | quiet | normal | verbose
  deriving DecidableEq, Repr

namespace Verbosity

/-- The verbosity of two flags, of which the one for quiet counts more. -/
def ofFlags (verbose quiet : Bool) : Verbosity :=
  if quiet then .quiet else if verbose then .verbose else .normal

/-- The least level that is logged. -/
def level : Verbosity → Nat
  | quiet => 40
  | normal => 30
  | verbose => 10

end Verbosity

/-- The root logger after it is set up. -/
structure LoggerState where
  level : Nat
  /-- The number of places that log records go to. -/
  outputs : Nat
  deriving DecidableEq, Repr

/-- The root logger for a verbosity; a file is one more output. -/
def LoggerState.ofVerbosity (v : Verbosity) (toFile : Bool) : LoggerState :=
  ⟨v.level, if toFile then 2 else 1⟩

end SourceGrade
