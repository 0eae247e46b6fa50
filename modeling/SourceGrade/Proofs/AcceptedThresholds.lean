import SourceGrade.Configuration.Active
import SourceGrade.Proofs.RatedReport
import SourceGrade.Thresholds.Validation

/-!
# Accepted thresholds

A table of thresholds is accepted when each of its checks comes out well. A setting that was compared
with a number is a number itself, so most limits of an accepted table are numbers.
-/

namespace SourceGrade

namespace Thresholds

variable {ι ρ : Type} [Comparable ι] [Comparable ρ]

open Comparable in
/-- Every check of a table came out well. -/
structure Accepted (t : Thresholds ι ρ) : Prop where
  complexity_order :
    chain t.complexityAMax [(.lt, t.complexityBMax), (.lt, t.complexityCMax)] = .ok true
  complexity_minimum : compare .lt t.complexityAMax (whole 1) = .ok false
  maintainability_order : chain (real 100) [(.ge, t.maintainabilityAMin),
    (.gt, t.maintainabilityBMin), (.gt, t.maintainabilityCMin), (.ge, real 0)] = .ok true
  reliability_order : chain (real 100) [(.ge, t.reliabilityAMin), (.gt, t.reliabilityBMin),
    (.gt, t.reliabilityCMin), (.ge, real 0)] = .ok true
  debt_order :
    chain (real 0) [(.le, t.debtAMax), (.lt, t.debtBMax), (.lt, t.debtCMax)] = .ok true
  weight_sign : anyOf .le (whole 0)
    [t.weightMinor, t.weightMajor, t.weightCritical, t.weightBlocker] = .ok false
  weight_order :
    descends [t.weightMinor, t.weightMajor, t.weightCritical, t.weightBlocker] = .ok false
  testCode_range : chain (real 0) [(.lt, t.testCodeFactor), (.le, real 1)] = .ok true
  errorHandling_range : chain (real 0) [(.lt, t.errorHandlingFactor), (.le, real 1)] = .ok true
  utilityCode_range : chain (real 0) [(.lt, t.utilityCodeFactor), (.le, real 1)] = .ok true
  repeatedIssue_range : chain (real 0) [(.lt, t.repeatedIssueFactor), (.le, real 1)] = .ok true
  conditionalPath_range :
    chain (real 0) [(.lt, t.conditionalPathFactor), (.le, real 1)] = .ok true
  criticalPath_range : chain (real 0) [(.lt, t.criticalPathFloor), (.le, real 1)] = .ok true
  compression_sign :
    anyOf .le (whole 0) [t.compressionKnee, t.compressionScale] = .ok false
  window_minimum : compare .lt t.duplicationWindow (whole 2) = .ok false
  minChars_sign : compare .lt t.duplicationMinChars (whole 0) = .ok false
  lookback_minimum : compare .lt t.documentationLookback (whole 1) = .ok false
  neutral_range : chain (real 0) [(.le, t.documentationNeutral), (.le, real 100)] = .ok true
  nesting_order :
    chain (whole 0) [(.lt, t.nestingWarnDepth), (.lt, t.nestingMajorDepth)] = .ok true
  penaltyDepth_order : compare .le t.nestingPenaltyDepth t.nestingSevereDepth = .ok true
  penaltyFactor_order :
    chain (real 1) [(.le, t.nestingPenaltyFactor), (.le, t.nestingSevereFactor)] = .ok true
  longFunction_order :
    chain (whole 0) [(.lt, t.longFunctionMinor), (.lt, t.longFunctionMajor)] = .ok true
  functionComplexity_order :
    chain (whole 0) [(.lt, t.functionComplexityMinor), (.lt, t.functionComplexityMajor)] =
      .ok true
  parameters_minimum : compare .lt t.maxParameters (whole 1) = .ok false
  development_minimum : compare .lt t.developmentMinutesPerLine (whole 1) = .ok false

end Thresholds

namespace Proofs

open Thresholds (Accepted)

lemma kept_eq_ok {rule : ThresholdRule} {check : Except Incomparable Bool} {u : Unit}
    (h : Thresholds.kept rule check = .ok u) : check = .ok true := by
  cases check with
  | error e => cases h
  | ok b =>
    cases b with
    | false => cases h
    | true => rfl

lemma broken_eq_ok {rule : ThresholdRule} {check : Except Incomparable Bool} {u : Unit}
    (h : Thresholds.broken rule check = .ok u) : check = .ok false := by
  cases check with
  | error e => cases h
  | ok b =>
    cases b with
    | false => rfl
    | true => cases h

lemma accepted_of_validate {ι ρ : Type} [Comparable ι] [Comparable ρ] {t : Thresholds ι ρ}
    (h : t.validate = .ok ()) : t.Accepted := by
  obtain ⟨_, h₁, h⟩ := bind_eq_ok h
  obtain ⟨_, h₂, h⟩ := bind_eq_ok h
  obtain ⟨_, h₃, h⟩ := bind_eq_ok h
  obtain ⟨_, h₄, h⟩ := bind_eq_ok h
  obtain ⟨_, h₅, h⟩ := bind_eq_ok h
  obtain ⟨_, h₆, h⟩ := bind_eq_ok h
  obtain ⟨_, h₇, h⟩ := bind_eq_ok h
  obtain ⟨_, h₈, h⟩ := bind_eq_ok h
  obtain ⟨_, h₉, h⟩ := bind_eq_ok h
  obtain ⟨_, h₁₀, h⟩ := bind_eq_ok h
  obtain ⟨_, h₁₁, h⟩ := bind_eq_ok h
  obtain ⟨_, h₁₂, h⟩ := bind_eq_ok h
  obtain ⟨_, h₁₃, h⟩ := bind_eq_ok h
  obtain ⟨_, h₁₄, h⟩ := bind_eq_ok h
  obtain ⟨_, h₁₅, h⟩ := bind_eq_ok h
  obtain ⟨_, h₁₆, h⟩ := bind_eq_ok h
  obtain ⟨_, h₁₇, h⟩ := bind_eq_ok h
  obtain ⟨_, h₁₈, h⟩ := bind_eq_ok h
  obtain ⟨_, h₁₉, h⟩ := bind_eq_ok h
  obtain ⟨_, h₂₀, h⟩ := bind_eq_ok h
  obtain ⟨_, h₂₁, h⟩ := bind_eq_ok h
  obtain ⟨_, h₂₂, h⟩ := bind_eq_ok h
  obtain ⟨_, h₂₃, h⟩ := bind_eq_ok h
  obtain ⟨_, h₂₄, h⟩ := bind_eq_ok h
  exact ⟨kept_eq_ok h₁, broken_eq_ok h₂, kept_eq_ok h₃, kept_eq_ok h₄, kept_eq_ok h₅,
    broken_eq_ok h₆, broken_eq_ok h₇, kept_eq_ok h₈, kept_eq_ok h₉, kept_eq_ok h₁₀,
    kept_eq_ok h₁₁, kept_eq_ok h₁₂, kept_eq_ok h₁₃, broken_eq_ok h₁₄, broken_eq_ok h₁₅,
    broken_eq_ok h₁₆, broken_eq_ok h₁₇, kept_eq_ok h₁₈, kept_eq_ok h₁₉, kept_eq_ok h₂₀,
    kept_eq_ok h₂₁, kept_eq_ok h₂₂, kept_eq_ok h₂₃, broken_eq_ok h₂₄, broken_eq_ok h⟩

/-! ### Numbers among settings -/

/-- A setting that is a number or a flag. -/
def IsNumber (s : Setting) : Prop := s.amount?.isSome = true

lemma compareWith_kinds {c : Comparison} {s t : Setting} {b : Bool}
    (h : Setting.compareWith c s t = .ok b) : IsNumber s ↔ IsNumber t := by
  cases s <;> cases t <;> first | exact Iff.rfl | cases h

lemma chain_isNumber {x : Setting} {rest : List (Comparison × Setting)} (hx : IsNumber x)
    (h : Thresholds.chain x rest = .ok true) : ∀ y ∈ rest, IsNumber y.2 := by
  induction rest generalizing x with
  | nil => exact List.forall_mem_nil _
  | cons y rest ih =>
    obtain ⟨c, y⟩ := y
    obtain ⟨holds, hcompare, h⟩ := bind_eq_ok h
    have hy := (compareWith_kinds hcompare).mp hx
    cases holds with
    | false => cases h
    | true => exact List.forall_mem_cons.mpr ⟨hy, ih hy h⟩

/-- The limits of an accepted table that were compared with numbers. -/
def checkedLimits {ρ : Type} (t : Thresholds Setting ρ) : List Setting :=
  [t.complexityAMax, t.complexityBMax, t.complexityCMax, t.duplicationWindow,
    t.duplicationMinChars, t.documentationLookback, t.nestingWarnDepth, t.nestingMajorDepth,
    t.longFunctionMinor, t.longFunctionMajor, t.maxParameters, t.functionComplexityMinor,
    t.functionComplexityMajor, t.developmentMinutesPerLine]

lemma checkedLimits_isNumber {ρ : Type} [Comparable ρ] {t : Thresholds Setting ρ}
    (h : t.Accepted) : ∀ s ∈ checkedLimits t, IsNumber s := by
  have hwhole : ∀ n, IsNumber (Comparable.whole n) := fun _ => rfl
  have hbelow : ∀ {c s n b}, Comparable.compare c s (Comparable.whole n) = .ok b → IsNumber s :=
    fun h => (compareWith_kinds h).mpr (hwhole _)
  have ha := hbelow h.complexity_minimum
  have horder := chain_isNumber ha h.complexity_order
  have hnesting := chain_isNumber (hwhole 0) h.nesting_order
  have hlong := chain_isNumber (hwhole 0) h.longFunction_order
  have hcomplex := chain_isNumber (hwhole 0) h.functionComplexity_order
  simp only [List.forall_mem_cons] at horder hnesting hlong hcomplex
  simp only [checkedLimits, List.forall_mem_cons]
  exact ⟨ha, horder.1, horder.2.1, hbelow h.window_minimum, hbelow h.minChars_sign,
    hbelow h.lookback_minimum, hnesting.1, hnesting.2.1, hlong.1, hlong.2.1,
    hbelow h.parameters_minimum, hcomplex.1, hcomplex.2.1, hbelow h.development_minimum,
    List.forall_mem_nil _⟩

end Proofs

end SourceGrade
