import SourceGrade.Declaration.Basic
import SourceGrade.Blocks.Basic
/-!
# Nesting

How deeply control blocks nest, on each line, in the whole unit, and in each function relative to
the line it begins on.
-/

namespace SourceGrade

/-- A depth with the first line that reaches it, when it is above zero. -/
structure Depth where
  depth : Nat
  deepestLine? : Option Nat
  deriving DecidableEq, Repr

/-- The nesting of a unit, of its lines and of its functions. -/
structure Nesting where
  unit : Depth
  lineDepths : List Nat
  perFunction : List (FunctionSpan × Depth)
  deriving DecidableEq, Repr

namespace Depth

/-- The greatest of some depths above a base, `line` being the line of the first. -/
def deepest (base : Nat) : (line : Nat) → (best : Depth) → List Nat → Depth
  | _, best, [] => best
  | line, best, d :: ds =>
    deepest base (line + 1) (if best.depth < d - base then ⟨d - base, some line⟩ else best) ds

end Depth

namespace Nesting

/-- The depth of a function above that of its first line. -/
def depthIn (depths : List Nat) (f : FunctionSpan) : Depth :=
  let lines := (depths.take f.endLine).drop (f.startLine - 1)
  Depth.deepest (lines.headD 0) f.startLine ⟨0, none⟩ lines

def ofBlocks (m : BlockMap) (functions : List FunctionSpan) : Nesting :=
  let depths := m.lineBlocks.map (·.countP (·.isControl))
  { unit := Depth.deepest 0 1 ⟨0, none⟩ depths
    lineDepths := depths
    perFunction := functions.map fun f => (f, depthIn depths f) }

/-- The depth of a function; of one that was not measured it is 0. -/
def ofFunction (n : Nesting) (f : FunctionSpan) : Depth :=
  ((n.perFunction.find? fun (g, _) => g.sameKey f).map (·.2)).getD ⟨0, none⟩

end Nesting

end SourceGrade
