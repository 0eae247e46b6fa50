import SourceGrade.Scoring.Rating
/-!
# Rating maintainability

Penalties for the measurements of a unit, and the compressed cost of its issues of structure,
readability and naming, are taken off the score.
-/

namespace SourceGrade

/-- The measurements of a unit that a report shows. -/
structure Metrics (α : Type) where
  totalLines : Int
  linesOfCode : Int
  commentLines : Int
  commentRatio : α
  functionCount : Int
  classCount : Int
  averageFunctionLength : α
  maxFunctionLength : Int
  rawComplexity : Int
  adjustedComplexity : α
  maxNestingDepth : Int
  duplicatedLines : Int
  duplicationPercent : α
  documentationCoverage : α
  deriving DecidableEq, Repr

/-- Points taken off for a measurement, with the reason. -/
structure Penalty where
  reason : Text
  points : Nat
  deriving DecidableEq, Repr

variable {α : Type} [Scalar α]

namespace Metrics

/-- The measurements of a unit of which nothing is known. -/
def unknown : Metrics α :=
  let zero : α := Scalar.ofInt 0
  ⟨0, 0, 0, zero, 0, 0, zero, 0, 1, Scalar.ofInt 1, 0, 0, zero, zero⟩

end Metrics

namespace Penalty

/-- The points of the first tier whose limit `exceeds` accepts. -/
def tier (exceeds : Int → Bool) (tiers : List (Int × Nat)) : Nat :=
  ((tiers.find? fun (limit, _) => exceeds limit).map (·.2)).getD 0

/-- A penalty, when it costs anything. -/
def when (points : Nat) (reason : Text) : List Penalty :=
  if points = 0 then [] else [⟨reason, points⟩]

def ofLength (m : Metrics α) : List Penalty :=
  when (tier (· < m.maxFunctionLength) [(100, 20), (60, 12), (30, 6)])
    ("longest function has " ++ Text.ofInt m.maxFunctionLength ++ " lines")

def ofNesting (m : Metrics α) : List Penalty :=
  when (tier (· < m.maxNestingDepth) [(5, 15), (4, 10), (3, 5)])
    ("nesting reaches depth " ++ Text.ofInt m.maxNestingDepth)

def ofDuplication (m : Metrics α) : List Penalty :=
  when (tier (Scalar.gtInt m.duplicationPercent) [(20, 15), (10, 10), (5, 5)])
    (Scalar.fixed 0 m.duplicationPercent ++ "% of lines are duplicated")

/-- Only a unit with declarations can lack documentation. -/
def ofDocumentation (m : Metrics α) : List Penalty :=
  if 0 < m.functionCount + m.classCount then
    when (tier (Scalar.ltInt m.documentationCoverage) [(25, 8), (50, 5), (75, 2)])
      ("only " ++ Scalar.fixed 0 m.documentationCoverage ++ "% of declarations are documented")
  else []

/-- Only a unit of some length needs comments. -/
def ofComments (m : Metrics α) : List Penalty :=
  if 20 < m.linesOfCode && Scalar.lt m.commentRatio (Scalar.ofRatio 5 100) then
    [⟨"almost no comments", 3⟩]
  else []

def ofCode (m : Metrics α) : List Penalty :=
  when (tier (· < m.linesOfCode) [(500, 8), (200, 4)])
    ("file has " ++ Text.ofInt m.linesOfCode ++ " lines of code")

end Penalty

namespace Metrics

/-- The penalties of some measurements, the largest first. -/
def penalties (m : Metrics α) : List Penalty :=
  (Penalty.ofLength m ++ Penalty.ofNesting m ++ Penalty.ofDuplication m ++
    Penalty.ofDocumentation m ++ Penalty.ofComments m ++ Penalty.ofCode m).mergeSort
    fun p q => q.points ≤ p.points

def penaltyPoints (m : Metrics α) : Nat := Listing.total (m.penalties.map (·.points))

end Metrics

/-- The penalties that a rating names at most. -/
def maxPenaltyReasons : Nat := 3

/-- The rating for a finite score. -/
def maintainabilityRating {ι : Type} (t : Thresholds ι α) (m : Metrics α) (a : Aggregation α)
    (score : α) : Rating α :=
  let score := Scalar.clampScore score
  let grade :=
    gradeForScore score t.maintainabilityAMin t.maintainabilityBMin t.maintainabilityCMin
  let reasons := (m.penalties.take maxPenaltyReasons).map (·.reason) ++
    (if a.groups.isEmpty then []
    else [Text.ofNat a.issueCount ++ " maintainability issue(s)"])
  { grade := grade
    score := score
    description := Quality.maintainability.description grade
    reason :=
      if reasons.isEmpty then "Code is well structured"
      else "Score reduced by: " ++ Text.join "; " reasons
    issues := a.summaries
    improvements := a.advice (Quality.maintainability.advice grade) }

/-- Rates the maintainability of a unit. -/
def rateMaintainability {ι : Type} (t : Thresholds ι α) (m : Metrics α) (a : Aggregation α) :
    Except RatingError (Rating α) := do
  let score := Scalar.ofInt 100 - Scalar.ofNat m.penaltyPoints - a.deduction
  inRange score
  if Scalar.isFinite score then return maintainabilityRating t m a score
  else return invalidScore .maintainability

end SourceGrade
