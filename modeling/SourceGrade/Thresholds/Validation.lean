import SourceGrade.Thresholds.Basic
/-!
# Consistent thresholds

A table of thresholds is checked before it is used; the first rule that it breaks is reported. The
checks only compare values, so they apply to any values that can be compared, and they fail when two
values cannot.
-/

namespace SourceGrade

/-- The rules that a table of thresholds can break. -/
inductive ThresholdRule where
  | complexityOrder
  | complexityMinimum
  | cutoffOrder (family : Text)
  | debtOrder
  | weightSign
  | weightOrder
  | factorRange (field : Text)
  | compressionSign
  | windowMinimum
  | minCharsSign
  | lookbackMinimum
  | neutralRange
  | nestingOrder
  | penaltyDepthOrder
  | penaltyFactorOrder
  | longFunctionOrder
  | functionComplexityOrder
  | parametersMinimum
  | developmentMinimum
  deriving DecidableEq, Repr

namespace ThresholdRule

def message : ThresholdRule → Text
  | complexityOrder => "complexity limits must be strictly increasing (A < B < C)"
  | complexityMinimum => "complexity_a_max must be at least 1"
  | cutoffOrder family => family ++ " cutoffs must be strictly decreasing within [0, 100]"
  | debtOrder => "debt limits must be strictly increasing (A < B < C)"
  | weightSign => "severity weights must be positive"
  | weightOrder => "severity weights must not decrease with severity"
  | factorRange field => field ++ " must be in (0.0, 1.0]"
  | compressionSign => "compression_knee and compression_scale must be positive"
  | windowMinimum => "duplication_window must be at least 2"
  | minCharsSign => "duplication_min_chars must be non-negative"
  | lookbackMinimum => "documentation_lookback must be at least 1"
  | neutralRange => "documentation_neutral must be between 0 and 100"
  | nestingOrder => "nesting_warn_depth must be positive and below nesting_major_depth"
  | penaltyDepthOrder => "nesting_penalty_depth must not exceed nesting_severe_depth"
  | penaltyFactorOrder => "nesting penalty factors must satisfy 1.0 <= penalty <= severe"
  | longFunctionOrder => "long_function_minor must be positive and below long_function_major"
  | functionComplexityOrder =>
    "function_complexity_minor must be positive and below function_complexity_major"
  | parametersMinimum => "max_parameters must be at least 1"
  | developmentMinimum => "development_minutes_per_line must be at least 1"

end ThresholdRule

/-- Why a table of thresholds is refused. -/
inductive ThresholdError where
  | broken (rule : ThresholdRule)
  | incomparable (e : Incomparable)
  deriving DecidableEq, Repr

namespace ThresholdError

def message : ThresholdError → Text
  | broken rule => rule.message
  | incomparable e => e.message

end ThresholdError

namespace Thresholds

section

variable {ν : Type} [Comparable ν]

/-- Whether each comparison holds between a value and the next. Later ones are not looked at once
one fails. -/
def chain (x : ν) : List (Comparison × ν) → Except Incomparable Bool
  | [] => .ok true
  | (c, y) :: rest => do
    if ← Comparable.compare c x y then chain y rest else .ok false

/-- Whether a comparison holds between one of the values and a constant. -/
def anyOf (c : Comparison) (constant : ν) : List ν → Except Incomparable Bool
  | [] => .ok false
  | x :: xs => do
    if ← Comparable.compare c x constant then .ok true else anyOf c constant xs

/-- Whether some value is below the one before it. -/
def descends : List ν → Except Incomparable Bool
  | x :: y :: rest => do
    if ← Comparable.compare .lt y x then .ok true else descends (y :: rest)
  | _ => .ok false

end

/-- The rule that a check found broken, if it did. -/
def broken (rule : ThresholdRule) (check : Except Incomparable Bool) : Except ThresholdError Unit :=
  match check with
  | .ok true => .error (.broken rule)
  | .ok false => .ok ()
  | .error e => .error (.incomparable e)

/-- A rule that a check has to find kept. -/
def kept (rule : ThresholdRule) (check : Except Incomparable Bool) : Except ThresholdError Unit :=
  broken rule (check.map (!·))

open Comparable in
/-- Checks a table of thresholds, one rule after the other. -/
def validate {ι ρ : Type} [Comparable ι] [Comparable ρ] (t : Thresholds ι ρ) :
    Except ThresholdError Unit := do
  kept .complexityOrder (chain t.complexityAMax [(.lt, t.complexityBMax), (.lt, t.complexityCMax)])
  broken .complexityMinimum (compare .lt t.complexityAMax (whole 1))
  kept (.cutoffOrder "maintainability")
    (chain (real 100) [(.ge, t.maintainabilityAMin), (.gt, t.maintainabilityBMin),
      (.gt, t.maintainabilityCMin), (.ge, real 0)])
  kept (.cutoffOrder "reliability")
    (chain (real 100) [(.ge, t.reliabilityAMin), (.gt, t.reliabilityBMin),
      (.gt, t.reliabilityCMin), (.ge, real 0)])
  kept .debtOrder (chain (real 0) [(.le, t.debtAMax), (.lt, t.debtBMax), (.lt, t.debtCMax)])
  let weights := [t.weightMinor, t.weightMajor, t.weightCritical, t.weightBlocker]
  broken .weightSign (anyOf .le (whole 0) weights)
  broken .weightOrder (descends weights)
  kept (.factorRange "test_code_factor") (chain (real 0) [(.lt, t.testCodeFactor), (.le, real 1)])
  kept (.factorRange "error_handling_factor")
    (chain (real 0) [(.lt, t.errorHandlingFactor), (.le, real 1)])
  kept (.factorRange "utility_code_factor")
    (chain (real 0) [(.lt, t.utilityCodeFactor), (.le, real 1)])
  kept (.factorRange "repeated_issue_factor")
    (chain (real 0) [(.lt, t.repeatedIssueFactor), (.le, real 1)])
  kept (.factorRange "conditional_path_factor")
    (chain (real 0) [(.lt, t.conditionalPathFactor), (.le, real 1)])
  kept (.factorRange "critical_path_floor")
    (chain (real 0) [(.lt, t.criticalPathFloor), (.le, real 1)])
  broken .compressionSign (anyOf .le (whole 0) [t.compressionKnee, t.compressionScale])
  broken .windowMinimum (compare .lt t.duplicationWindow (whole 2))
  broken .minCharsSign (compare .lt t.duplicationMinChars (whole 0))
  broken .lookbackMinimum (compare .lt t.documentationLookback (whole 1))
  kept .neutralRange (chain (real 0) [(.le, t.documentationNeutral), (.le, real 100)])
  kept .nestingOrder (chain (whole 0) [(.lt, t.nestingWarnDepth), (.lt, t.nestingMajorDepth)])
  kept .penaltyDepthOrder (compare .le t.nestingPenaltyDepth t.nestingSevereDepth)
  kept .penaltyFactorOrder
    (chain (real 1) [(.le, t.nestingPenaltyFactor), (.le, t.nestingSevereFactor)])
  kept .longFunctionOrder (chain (whole 0) [(.lt, t.longFunctionMinor), (.lt, t.longFunctionMajor)])
  kept .functionComplexityOrder
    (chain (whole 0) [(.lt, t.functionComplexityMinor), (.lt, t.functionComplexityMajor)])
  broken .parametersMinimum (compare .lt t.maxParameters (whole 1))
  broken .developmentMinimum (compare .lt t.developmentMinutesPerLine (whole 1))

end Thresholds

end SourceGrade
