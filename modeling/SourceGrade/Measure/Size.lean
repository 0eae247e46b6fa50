import SourceGrade.Declaration.Find
import SourceGrade.Number.Scalar
import SourceGrade.Listing
/-!
# Size

The counts of lines, functions and classes of a source unit. Ratios and averages are derived from
them.
-/

namespace SourceGrade

/-- The counts of a source unit. -/
structure Size where
  totalLines : Nat
  linesOfCode : Nat
  commentLines : Nat
  nonBlankLines : Nat
  functions : List FunctionSpan
  classes : List ClassDeclaration
  deriving DecidableEq, Repr

namespace Size

def ofSource (s : Source) : Size where
  totalLines := s.lineCount
  linesOfCode := s.lines.countP (·.hasCode)
  commentLines := s.lines.countP (·.hasComment)
  nonBlankLines := s.lines.countP (!·.isBlank)
  functions := s.functions
  classes := s.classes

def functionCount (m : Size) : Nat := m.functions.length

def classCount (m : Size) : Nat := m.classes.length

/-- The length of the longest function; without functions the code counts as one. -/
def maxFunctionLength (m : Size) : Nat :=
  match m.functions with
  | [] => m.linesOfCode
  | f :: fs => fs.foldl (fun longest g => max longest g.length) f.length

section

variable {α : Type} [Scalar α]

/-- The share of lines with a comment among the lines that are not blank. -/
def commentRatio (m : Size) : α :=
  if m.nonBlankLines = 0 then Scalar.ofInt 0 else Scalar.ofRatio m.commentLines m.nonBlankLines

/-- The mean length of the functions; without functions the code counts as one. -/
def averageFunctionLength (m : Size) : α :=
  match m.functions with
  | [] => Scalar.ofNat m.linesOfCode
  | _ :: _ => Scalar.ofRatio (Listing.total (m.functions.map (·.length))) m.functions.length

end

end Size

end SourceGrade
