import SourceGrade.Source.Basic
/-!
# Enclosing blocks

A block map records, for every line, the kinds of the blocks around it. The line that opens a block
belongs to the block.
-/

namespace SourceGrade

/-- The blocks around each line, the outermost first. -/
structure BlockMap where
  lineBlocks : List (List BlockKind)
  deriving DecidableEq, Repr

namespace BlockMap

/-- The blocks around a line; none outside the source. -/
def kindsAt (m : BlockMap) (line : Int) : List BlockKind :=
  if 1 ≤ line then (m.lineBlocks[(line - 1).toNat]?).getD [] else []

@[simp] theorem kindsAt_succ (m : BlockMap) (k : Nat) :
    m.kindsAt (k + 1) = (m.lineBlocks[k]?).getD [] := by
  unfold kindsAt
  rw [if_pos (by omega), show ((k : Int) + 1 - 1).toNat = k by omega]

/-- The number of control blocks around a line. -/
def depthAt (m : BlockMap) (line : Int) : Nat := (m.kindsAt line).countP (·.isControl)

def inErrorHandling (m : BlockMap) (line : Int) : Bool := (m.kindsAt line).any (·.isErrorHandling)

def inConditional (m : BlockMap) (line : Int) : Bool := (m.kindsAt line).any (·.isConditional)

end BlockMap

end SourceGrade
