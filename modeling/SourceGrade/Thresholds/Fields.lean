import SourceGrade.Thresholds.Basic
/-!
# The fields of the thresholds

Every threshold has a name by which it is set and shown.
-/

namespace SourceGrade

/-- A field of the thresholds: its name, and how it is read and set. -/
inductive ThresholdField (ι ρ : Type) where
  | whole (name : Text) (get : Thresholds ι ρ → ι) (set : ι → Thresholds ι ρ → Thresholds ι ρ)
  | real (name : Text) (get : Thresholds ι ρ → ρ) (set : ρ → Thresholds ι ρ → Thresholds ι ρ)

namespace ThresholdField

variable {ι ρ : Type}

def name : ThresholdField ι ρ → Text
  | whole n _ _ => n
  | real n _ _ => n

/-- What a function says about the value of a field, by the kind of the field. -/
def read {β : Type} (ofWhole : ι → β) (ofReal : ρ → β) (t : Thresholds ι ρ) :
    ThresholdField ι ρ → β
  | whole _ get _ => ofWhole (get t)
  | real _ get _ => ofReal (get t)

/-- The bounds of grades. -/
def gradeBounds : List (ThresholdField ι ρ) :=
  [.whole "complexity_a_max" (·.complexityAMax) fun v t => { t with complexityAMax := v },
   .whole "complexity_b_max" (·.complexityBMax) fun v t => { t with complexityBMax := v },
   .whole "complexity_c_max" (·.complexityCMax) fun v t => { t with complexityCMax := v },
   .real "maintainability_a_min" (·.maintainabilityAMin) fun v t =>
      { t with maintainabilityAMin := v },
   .real "maintainability_b_min" (·.maintainabilityBMin) fun v t =>
      { t with maintainabilityBMin := v },
   .real "maintainability_c_min" (·.maintainabilityCMin) fun v t =>
      { t with maintainabilityCMin := v },
   .real "reliability_a_min" (·.reliabilityAMin) fun v t => { t with reliabilityAMin := v },
   .real "reliability_b_min" (·.reliabilityBMin) fun v t => { t with reliabilityBMin := v },
   .real "reliability_c_min" (·.reliabilityCMin) fun v t => { t with reliabilityCMin := v },
   .real "debt_a_max" (·.debtAMax) fun v t => { t with debtAMax := v },
   .real "debt_b_max" (·.debtBMax) fun v t => { t with debtBMax := v },
   .real "debt_c_max" (·.debtCMax) fun v t => { t with debtCMax := v }]

/-- What issues cost. -/
def costs : List (ThresholdField ι ρ) :=
  [.real "weight_minor" (·.weightMinor) fun v t => { t with weightMinor := v },
   .real "weight_major" (·.weightMajor) fun v t => { t with weightMajor := v },
   .real "weight_critical" (·.weightCritical) fun v t => { t with weightCritical := v },
   .real "weight_blocker" (·.weightBlocker) fun v t => { t with weightBlocker := v },
   .real "test_code_factor" (·.testCodeFactor) fun v t => { t with testCodeFactor := v },
   .real "error_handling_factor" (·.errorHandlingFactor) fun v t =>
      { t with errorHandlingFactor := v },
   .real "utility_code_factor" (·.utilityCodeFactor) fun v t => { t with utilityCodeFactor := v },
   .real "repeated_issue_factor" (·.repeatedIssueFactor) fun v t =>
      { t with repeatedIssueFactor := v },
   .real "conditional_path_factor" (·.conditionalPathFactor) fun v t =>
      { t with conditionalPathFactor := v },
   .real "critical_path_floor" (·.criticalPathFloor) fun v t => { t with criticalPathFloor := v },
   .real "compression_knee" (·.compressionKnee) fun v t => { t with compressionKnee := v },
   .real "compression_scale" (·.compressionScale) fun v t => { t with compressionScale := v }]

/-- The limits of findings and measurements. -/
def findingLimits : List (ThresholdField ι ρ) :=
  [.whole "critical_warning_count" (·.criticalWarningCount) fun v t =>
      { t with criticalWarningCount := v },
   .whole "major_warning_count" (·.majorWarningCount) fun v t => { t with majorWarningCount := v },
   .whole "duplication_window" (·.duplicationWindow) fun v t => { t with duplicationWindow := v },
   .whole "duplication_min_chars" (·.duplicationMinChars) fun v t =>
      { t with duplicationMinChars := v },
   .whole "documentation_lookback" (·.documentationLookback) fun v t =>
      { t with documentationLookback := v },
   .real "documentation_neutral" (·.documentationNeutral) fun v t =>
      { t with documentationNeutral := v },
   .whole "nesting_warn_depth" (·.nestingWarnDepth) fun v t => { t with nestingWarnDepth := v },
   .whole "nesting_major_depth" (·.nestingMajorDepth) fun v t => { t with nestingMajorDepth := v },
   .whole "nesting_penalty_depth" (·.nestingPenaltyDepth) fun v t =>
      { t with nestingPenaltyDepth := v },
   .real "nesting_penalty_factor" (·.nestingPenaltyFactor) fun v t =>
      { t with nestingPenaltyFactor := v },
   .whole "nesting_severe_depth" (·.nestingSevereDepth) fun v t =>
      { t with nestingSevereDepth := v },
   .real "nesting_severe_factor" (·.nestingSevereFactor) fun v t =>
      { t with nestingSevereFactor := v },
   .whole "long_function_minor" (·.longFunctionMinor) fun v t => { t with longFunctionMinor := v },
   .whole "long_function_major" (·.longFunctionMajor) fun v t => { t with longFunctionMajor := v },
   .whole "max_parameters" (·.maxParameters) fun v t => { t with maxParameters := v },
   .whole "function_complexity_minor" (·.functionComplexityMinor) fun v t =>
      { t with functionComplexityMinor := v },
   .whole "function_complexity_major" (·.functionComplexityMajor) fun v t =>
      { t with functionComplexityMajor := v },
   .whole "development_minutes_per_line" (·.developmentMinutesPerLine) fun v t =>
      { t with developmentMinutesPerLine := v }]

/-- All fields, in the order in which they are shown. -/
def all : List (ThresholdField ι ρ) := gradeBounds ++ costs ++ findingLimits

/-- The field of a name. -/
def find? (name : Text) : Option (ThresholdField ι ρ) := all.find? (·.name = name)

end ThresholdField

/-- The values of all fields with their names, in the order in which they are shown. -/
def Thresholds.toMembers {ι ρ β : Type} (ofWhole : ι → β) (ofReal : ρ → β) (t : Thresholds ι ρ) :
    List (Text × β) :=
  ThresholdField.all.map fun f => (f.name, f.read ofWhole ofReal t)

end SourceGrade
