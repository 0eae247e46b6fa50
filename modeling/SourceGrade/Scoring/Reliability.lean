import SourceGrade.Scoring.Rating
/-!
# Rating reliability

Issues of reliability take their compressed cost off the score. A confirmed critical issue makes the
worst grade whatever the score, and a good grade that hides several severe issues carries a warning.
-/

namespace SourceGrade

variable {ι α : Type} [Comparable ι] [Scalar α]

/-- The number of issues in critical groups. -/
def Aggregation.criticalCount (a : Aggregation α) : Nat :=
  Listing.total ((a.groups.filter (·.isCritical)).map (·.count))

/-- The number of issues that are major but not critical. -/
def Aggregation.majorCount (a : Aggregation α) : Nat :=
  Listing.total (a.groups.map fun g =>
    g.issues.countP fun i => i.severity.isMajor && !i.severity.isCritical)

/-- Whether a grade hides several severe issues. -/
def reliabilityWarning (t : Thresholds ι α) (a : Aggregation α) (grade : Grade) :
    Except RatingError Bool := do
  let hidesCritical ←
    if grade = .a ∨ grade = .b then
      compared .ge (Comparable.whole a.criticalCount) t.criticalWarningCount
    else pure false
  if hidesCritical then return true
  else if grade = .b then compared .ge (Comparable.whole a.majorCount) t.majorWarningCount
  else return false

/-- The grade of a score; a confirmed critical issue makes the worst. -/
def reliabilityGrade (t : Thresholds ι α) (score : α) (confirmed : Nat) : Grade :=
  if 0 < confirmed then .d
  else gradeForScore score t.reliabilityAMin t.reliabilityBMin t.reliabilityCMin

/-- The rating for a finite score. -/
def reliabilityRating (t : Thresholds ι α) (a : Aggregation α) (confirmed : Nat) (score : α) :
    Except RatingError (Rating α) := do
  let score := Scalar.clampScore score
  let grade := reliabilityGrade t score confirmed
  let warning ← reliabilityWarning t a grade
  return {
    grade := grade
    score := score
    description := Quality.reliability.description grade
    reason :=
      if 0 < confirmed then
        Text.ofNat confirmed ++ " confirmed critical issue(s) can fail at runtime"
      else if a.groups.isEmpty then "No reliability issues detected"
      else
        Text.ofNat a.issueCount ++ " reliability issue(s) reduce the score to " ++
          Scalar.fixed 0 score
    issues := a.summaries
    improvements := a.advice (Quality.reliability.advice grade)
    warningFlag := warning }

/-- Rates the reliability of a unit, `confirmed` being the number of its confirmed critical
issues. -/
def rateReliability (t : Thresholds ι α) (a : Aggregation α) (confirmed : Nat) :
    Except RatingError (Rating α) := do
  let score := Scalar.ofInt 100 - a.deduction
  inRange score
  if Scalar.isFinite score then reliabilityRating t a confirmed score
  else return invalidScore .reliability

end SourceGrade
