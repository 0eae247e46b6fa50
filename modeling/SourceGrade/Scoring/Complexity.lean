import SourceGrade.Scoring.Rating
/-!
# Rating complexity

The complexity of a unit is rated after it is raised for deep nesting. The grade follows from limits
on the raised value, the score from a line that falls from one limit to the next.
-/

namespace SourceGrade

variable {ι α : Type} [Comparable ι] [Scalar α]

/-- Whether nesting is severe, or out of proportion to the branching. -/
inductive NestingPenalty where
  | severe | disproportionate | none
  deriving DecidableEq, Repr

namespace NestingPenalty

/-- The penalty of a depth. `exceeds` tells whether twice the depth is above the complexity. -/
def ofDepth (t : Thresholds ι α) (depth : Int) (exceeds : Bool) :
    Except Incomparable NestingPenalty := do
  if ← Comparable.compare .ge (Comparable.whole depth) t.nestingSevereDepth then return severe
  else if ← Comparable.compare .ge (Comparable.whole depth) t.nestingPenaltyDepth then
    return if exceeds then disproportionate else none
  else return none

/-- The factor by which a penalty raises a complexity. -/
def factor (t : Thresholds ι α) : NestingPenalty → α
  | severe => t.nestingSevereFactor
  | disproportionate => t.nestingPenaltyFactor
  | none => Scalar.ofInt 1

/-- A complexity under a penalty. -/
def apply (t : Thresholds ι α) (raw : Int) (p : NestingPenalty) : α :=
  Scalar.whole raw * p.factor t

end NestingPenalty

/-- The complexity of a unit raised for nesting. -/
def adjustedComplexity (t : Thresholds ι α) (raw depth : Int) : Except Incomparable α :=
  (NestingPenalty.ofDepth t depth (raw < depth * 2)).map (·.apply t raw)

/-- The score of a complexity, piece by piece a falling line: 100 at 1, 90 at 10, 80 at 20, 70 at
30. -/
def complexityScore (value : α) : α :=
  Scalar.clampScore
    (if Scalar.leInt value 10 then
      Scalar.ofInt 100 - (value - Scalar.whole 1) * Scalar.ofInt 10 / Scalar.ofInt 9
    else if Scalar.leInt value 20 then Scalar.ofInt 90 - (value - Scalar.whole 10)
    else if Scalar.leInt value 30 then Scalar.ofInt 80 - (value - Scalar.whole 20)
    else Scalar.ofInt 70 - (value - Scalar.whole 30))

/-- The grade of a raised complexity. -/
def complexityGrade [LimitIn ι α] (t : Thresholds ι α) (adjusted : α) : Grade :=
  if Scalar.le adjusted (LimitIn.toScalar t.complexityAMax) then .a
  else if Scalar.le adjusted (LimitIn.toScalar t.complexityBMax) then .b
  else if Scalar.le adjusted (LimitIn.toScalar t.complexityCMax) then .c
  else .d

/-- The rating of a complexity shown as `shown` and raised to `adjusted` for a depth; `raised` tells
whether the two differ. -/
def complexityRating (grade : Grade) (shown : Text) (adjusted : α) (raised : Bool) (depth : Text)
    (hotspots : List Text) : Rating α where
  grade := grade
  score := complexityScore adjusted
  description := Quality.complexity.description grade
  reason := "Cyclomatic complexity is " ++ shown ++
    (if raised then
      ", adjusted to " ++ Scalar.fixed 1 adjusted ++ " for nesting depth " ++ depth
    else [])
  issues := hotspots.take maxRatingIssues
  improvements := Quality.complexity.advice grade

/-- Rates the complexity of a unit from its raised value. The hotspots are the functions worth
naming. -/
def rateComplexity [LimitIn ι α] (t : Thresholds ι α) (raw depth : Int) (adjusted : α)
    (hotspots : List Text) : Except RatingError (Rating α) := do
  inRange adjusted
  return complexityRating (complexityGrade t adjusted) (Text.ofInt raw) adjusted
    (!Scalar.eqInt adjusted raw) (Text.ofInt depth) hotspots

end SourceGrade
