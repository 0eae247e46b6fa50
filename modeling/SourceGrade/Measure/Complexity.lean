import SourceGrade.Declaration.Basic
import SourceGrade.Source.Basic
import SourceGrade.Listing
/-!
# Cyclomatic complexity

The complexity of a unit, and of each function in it, is one more than the number of its decision
points.
-/

namespace SourceGrade

/-- The complexity of a unit and of its functions. -/
structure Complexity where
  total : Nat
  perFunction : List (FunctionSpan × Nat)
  deriving DecidableEq, Repr

namespace Complexity

/-- The decision points of a line of code. -/
def decisionsOn (decisions : List Pattern) (code : Text) : Nat :=
  Listing.total (decisions.map fun p => (p.all code).length)

def decisionPoints (decisions : List Pattern) (lines : List SourceLine) : Nat :=
  Listing.total (lines.map fun l => if l.hasCode then decisionsOn decisions l.code else 0)

def ofSource (s : Source) (functions : List FunctionSpan) : Complexity where
  total := 1 + decisionPoints s.language.decisions s.lines
  perFunction := functions.map fun f =>
    (f, 1 + decisionPoints s.language.decisions (s.span f.startLine f.endLine))

/-- The complexity of a function; of one that was not measured it is 1. -/
def ofFunction (c : Complexity) (f : FunctionSpan) : Nat :=
  ((c.perFunction.find? fun (g, _) => g.sameKey f).map (·.2)).getD 1

end Complexity

end SourceGrade
