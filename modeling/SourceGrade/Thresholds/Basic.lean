import SourceGrade.Number.Comparable
/-!
# Thresholds

The one table of numbers behind all grades: limits of grades, weights and discounts of issues, and
the parameters of the checks. Whole numbers and other numbers may come in types of their own.
-/

namespace SourceGrade

/-- The thresholds of an analysis, with whole numbers in `ι` and others in `ρ`. -/
structure Thresholds (ι ρ : Type) where
  complexityAMax : ι
  complexityBMax : ι
  complexityCMax : ι
  maintainabilityAMin : ρ
  maintainabilityBMin : ρ
  maintainabilityCMin : ρ
  reliabilityAMin : ρ
  reliabilityBMin : ρ
  reliabilityCMin : ρ
  debtAMax : ρ
  debtBMax : ρ
  debtCMax : ρ
  weightMinor : ρ
  weightMajor : ρ
  weightCritical : ρ
  weightBlocker : ρ
  testCodeFactor : ρ
  errorHandlingFactor : ρ
  utilityCodeFactor : ρ
  repeatedIssueFactor : ρ
  conditionalPathFactor : ρ
  criticalPathFloor : ρ
  compressionKnee : ρ
  compressionScale : ρ
  criticalWarningCount : ι
  majorWarningCount : ι
  duplicationWindow : ι
  duplicationMinChars : ι
  documentationLookback : ι
  documentationNeutral : ρ
  nestingWarnDepth : ι
  nestingMajorDepth : ι
  nestingPenaltyDepth : ι
  nestingPenaltyFactor : ρ
  nestingSevereDepth : ι
  nestingSevereFactor : ρ
  longFunctionMinor : ι
  longFunctionMajor : ι
  maxParameters : ι
  functionComplexityMinor : ι
  functionComplexityMajor : ι
  developmentMinutesPerLine : ι
  deriving DecidableEq, Repr

namespace Thresholds

/-- The thresholds in use when none are given, from the whole numbers and the quotients of a
type. -/
def defaultsOf {ι ρ : Type} (whole : Int → ι) (ratio : Int → Nat → ρ) : Thresholds ι ρ where
  complexityAMax := whole 10
  complexityBMax := whole 20
  complexityCMax := whole 30
  maintainabilityAMin := ratio 90 1
  maintainabilityBMin := ratio 80 1
  maintainabilityCMin := ratio 70 1
  reliabilityAMin := ratio 90 1
  reliabilityBMin := ratio 75 1
  reliabilityCMin := ratio 60 1
  debtAMax := ratio 5 1
  debtBMax := ratio 10 1
  debtCMax := ratio 20 1
  weightMinor := ratio 2 1
  weightMajor := ratio 8 1
  weightCritical := ratio 15 1
  weightBlocker := ratio 25 1
  testCodeFactor := ratio 1 2
  errorHandlingFactor := ratio 7 10
  utilityCodeFactor := ratio 8 10
  repeatedIssueFactor := ratio 9 10
  conditionalPathFactor := ratio 6 10
  criticalPathFloor := ratio 7 10
  compressionKnee := ratio 20 1
  compressionScale := ratio 5 1
  criticalWarningCount := whole 2
  majorWarningCount := whole 3
  duplicationWindow := whole 6
  duplicationMinChars := whole 50
  documentationLookback := whole 3
  documentationNeutral := ratio 50 1
  nestingWarnDepth := whole 3
  nestingMajorDepth := whole 5
  nestingPenaltyDepth := whole 4
  nestingPenaltyFactor := ratio 115 100
  nestingSevereDepth := whole 6
  nestingSevereFactor := ratio 13 10
  longFunctionMinor := whole 30
  longFunctionMajor := whole 60
  maxParameters := whole 5
  functionComplexityMinor := whole 15
  functionComplexityMajor := whole 20
  developmentMinutesPerLine := whole 30

/-- The thresholds in use when none are given. -/
def defaults {ι α : Type} [Comparable ι] [Scalar α] : Thresholds ι α :=
  defaultsOf Comparable.whole Scalar.ofRatio

/-- Thresholds with their fields in other types. -/
def map {ι ρ ι' ρ' : Type} (f : ι → ι') (g : ρ → ρ') (t : Thresholds ι ρ) :
    Thresholds ι' ρ' where
  complexityAMax := f t.complexityAMax
  complexityBMax := f t.complexityBMax
  complexityCMax := f t.complexityCMax
  maintainabilityAMin := g t.maintainabilityAMin
  maintainabilityBMin := g t.maintainabilityBMin
  maintainabilityCMin := g t.maintainabilityCMin
  reliabilityAMin := g t.reliabilityAMin
  reliabilityBMin := g t.reliabilityBMin
  reliabilityCMin := g t.reliabilityCMin
  debtAMax := g t.debtAMax
  debtBMax := g t.debtBMax
  debtCMax := g t.debtCMax
  weightMinor := g t.weightMinor
  weightMajor := g t.weightMajor
  weightCritical := g t.weightCritical
  weightBlocker := g t.weightBlocker
  testCodeFactor := g t.testCodeFactor
  errorHandlingFactor := g t.errorHandlingFactor
  utilityCodeFactor := g t.utilityCodeFactor
  repeatedIssueFactor := g t.repeatedIssueFactor
  conditionalPathFactor := g t.conditionalPathFactor
  criticalPathFloor := g t.criticalPathFloor
  compressionKnee := g t.compressionKnee
  compressionScale := g t.compressionScale
  criticalWarningCount := f t.criticalWarningCount
  majorWarningCount := f t.majorWarningCount
  duplicationWindow := f t.duplicationWindow
  duplicationMinChars := f t.duplicationMinChars
  documentationLookback := f t.documentationLookback
  documentationNeutral := g t.documentationNeutral
  nestingWarnDepth := f t.nestingWarnDepth
  nestingMajorDepth := f t.nestingMajorDepth
  nestingPenaltyDepth := f t.nestingPenaltyDepth
  nestingPenaltyFactor := g t.nestingPenaltyFactor
  nestingSevereDepth := f t.nestingSevereDepth
  nestingSevereFactor := g t.nestingSevereFactor
  longFunctionMinor := f t.longFunctionMinor
  longFunctionMajor := f t.longFunctionMajor
  maxParameters := f t.maxParameters
  functionComplexityMinor := f t.functionComplexityMinor
  functionComplexityMajor := f t.functionComplexityMajor
  developmentMinutesPerLine := f t.developmentMinutesPerLine

end Thresholds

end SourceGrade
