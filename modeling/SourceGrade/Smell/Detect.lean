import SourceGrade.Smell.Basic
import SourceGrade.Smell.EmptyCatch
import SourceGrade.Smell.Measured
/-!
# The search for smells

All checks for maintainability, in a fixed order.
-/

namespace SourceGrade

/-- The checks for smells, in their order. -/
inductive SmellCheck where
  | functionSize | magicNumbers | debugOutput | todoComments | shortNames | mixedNaming | emptyCatch
  | missingDocs | duplicates
  deriving DecidableEq, Repr

/-- The measurements that some checks look at. -/
structure Measurements where
  complexity : Complexity
  duplication : Duplication
  documentation : Documentation

namespace SmellCheck

def all : List SmellCheck :=
  [functionSize, magicNumbers, debugOutput, todoComments, shortNames, mixedNaming, emptyCatch,
    missingDocs, duplicates]

/-- The issues that a check finds. -/
def issues {ι ρ : Type} [Comparable ι] [Scalar ρ] (check : SmellCheck) (i : Inspection)
    (m : Measurements) (t : Thresholds ι ρ) : List Issue :=
  match check with
  | functionSize => FunctionSize.issues i m.complexity t
  | magicNumbers => MagicNumber.issues i
  | debugOutput => DebugOutput.issues i
  | todoComments => TodoComment.issues i
  | shortNames => ShortName.issues i
  | mixedNaming => MixedNaming.issues i
  | emptyCatch => EmptyCatch.issues i
  | missingDocs => MissingDocs.issues i m.documentation t
  | duplicates => RepeatedBlock.issues ρ i m.duplication

end SmellCheck

/-- The issues that all checks for smells find. -/
def detectSmells {ι ρ : Type} [Comparable ι] [Scalar ρ] (i : Inspection) (m : Measurements)
    (t : Thresholds ι ρ) : List Issue :=
  SmellCheck.all.flatMap fun check => check.issues i m t

end SourceGrade
