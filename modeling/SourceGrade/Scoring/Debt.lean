import SourceGrade.Scoring.Rating
/-!
# Technical debt

The time it takes to mend all issues, against the time it took to write the code.
-/

namespace SourceGrade

/-- The technical debt of a unit. -/
structure Debt (α : Type) where
  totalMinutes : Int
  ratioPercent : α
  grade : Grade
  developmentMinutes : α
  deriving DecidableEq, Repr

variable {ι α : Type} [Scalar α]

/-- The grade of a debt ratio, lower being better. -/
def debtGrade (t : Thresholds ι α) (ratio : α) : Grade :=
  if Scalar.le ratio t.debtAMax then .a
  else if Scalar.le ratio t.debtBMax then .b
  else if Scalar.le ratio t.debtCMax then .c
  else .d

namespace Debt

/-- The minutes it took to write some lines of code. -/
def development [LimitIn ι α] (t : Thresholds ι α) (linesOfCode : α) : α :=
  (if Scalar.gtInt linesOfCode 0 then linesOfCode else Scalar.whole 0) *
    LimitIn.toScalar t.developmentMinutesPerLine

/-- The share of one time in another, in percent; without code there is no debt. -/
def percent (total : Int) (development : α) : α :=
  if Scalar.eqInt development 0 then Scalar.ofInt 0
  else Scalar.whole total / development * Scalar.ofInt 100

/-- The least whole number that has too many digits to be written. -/
def unwritable : Nat := tenTo 4300

/-- Refuses a whole number that has too many digits to be written. -/
def isWritable (n? : Option Int) : Except RatingError Unit :=
  if n?.any fun n => unwritable ≤ n.natAbs then .error (.overflow .digits) else .ok ()

def ofIssues [LimitIn ι α] (t : Thresholds ι α) (issues : List Issue) (linesOfCode : α) :
    Except RatingError (Debt α) := do
  let total := issues.foldr (fun i minutes => i.remediationMinutes + minutes) 0
  let development := development t linesOfCode
  let percent := percent total development
  inRange percent
  isWritable (some total)
  isWritable (Scalar.whole? development)
  return ⟨total, percent, debtGrade t percent, development⟩

end Debt

end SourceGrade
