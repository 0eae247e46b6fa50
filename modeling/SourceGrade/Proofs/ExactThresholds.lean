import Mathlib.Tactic.NormNum
import SourceGrade.Proofs.AcceptedThresholds
import SourceGrade.Proofs.ExactArithmetic

/-!
# Thresholds in exact arithmetic

Whole numbers and real numbers always compare, so in exact arithmetic a check of a table of
thresholds comes out well exactly if certain inequalities hold between its entries. The usual
thresholds are accepted there.
-/

namespace SourceGrade

/-- The usual thresholds in exact arithmetic. -/
noncomputable def exactDefaults : Thresholds Int ℝ := Thresholds.defaults

/-- What a comparison says about two members of an order. -/
def Comparison.Relates {ν : Type} [LE ν] [LT ν] (c : Comparison) (x y : ν) : Prop :=
  match c with
  | .lt => x < y
  | .le => x ≤ y
  | .gt => y < x
  | .ge => y ≤ x

/-- Values of an order, all of which compare as the order has it. -/
class LawfulComparable (ν : Type) [LE ν] [LT ν] [Comparable ν] : Prop where
  compare_eq_ok_iff (c : Comparison) (x y : ν) (answer : Bool) :
    Comparable.compare c x y = .ok answer ↔ (c.Relates x y ↔ answer = true)

namespace Proofs

open LawfulComparable
open Thresholds (Accepted chain anyOf descends)

lemma holds_compare_iff (c : Comparison) (m n : Int) :
    c.holds (compare m n) = true ↔ c.Relates m n := by
  rcases lt_trichotomy m n with h | rfl | h
  · rw [compare_lt_iff_lt.mpr h]
    cases c <;> simp [Comparison.holds, Comparison.Relates, h, h.le]
  · rw [compare_eq_iff_eq.mpr rfl]
    cases c <;> simp [Comparison.holds, Comparison.Relates]
  · rw [compare_gt_iff_gt.mpr h]
    cases c <;> simp [Comparison.holds, Comparison.Relates, h, h.le]

instance : LawfulComparable Int where
  compare_eq_ok_iff c m n answer := by
    rw [← holds_compare_iff, ← Bool.eq_iff_iff]
    exact ⟨Except.ok.inj, congrArg Except.ok⟩

instance : LawfulComparable ℝ where
  compare_eq_ok_iff c x y answer := by
    cases c <;> cases answer <;>
      simp [Comparable.compare, Comparison.Relates, le_real, lt_real]

/-! ### Checks -/

section

variable {ν : Type} [Comparable ν] {c : Comparison} {x y : ν} {rest : List (Comparison × ν)}

lemma chain_nil : chain x [] = .ok true := rfl

lemma chain_cons_eq_ok_iff : chain x ((c, y) :: rest) = .ok true ↔
    Comparable.compare c x y = .ok true ∧ chain y rest = .ok true := by
  rw [chain]
  cases Comparable.compare c x y with
  | error e => simp [bind, Except.bind]
  | ok answer => cases answer <;> simp [bind, Except.bind]

lemma anyOf_nil {constant : ν} : anyOf c constant [] = .ok false := rfl

lemma anyOf_cons_eq_ok_iff {constant : ν} {xs : List ν} : anyOf c constant (x :: xs) = .ok false ↔
    Comparable.compare c x constant = .ok false ∧ anyOf c constant xs = .ok false := by
  rw [anyOf]
  cases Comparable.compare c x constant with
  | error e => simp [bind, Except.bind]
  | ok answer => cases answer <;> simp [bind, Except.bind]

lemma descends_singleton : descends [x] = .ok false := rfl

lemma descends_cons_eq_ok_iff {xs : List ν} : descends (x :: y :: xs) = .ok false ↔
    Comparable.compare .lt y x = .ok false ∧ descends (y :: xs) = .ok false := by
  rw [descends]
  cases Comparable.compare .lt y x with
  | error e => simp [bind, Except.bind]
  | ok answer => cases answer <;> simp [bind, Except.bind]

end

lemma validate_of_accepted {ι ρ : Type} [Comparable ι] [Comparable ρ] {t : Thresholds ι ρ}
    (h : t.Accepted) : t.validate = .ok () := by
  unfold Thresholds.validate
  simp only [h.complexity_order, h.complexity_minimum, h.maintainability_order, h.reliability_order,
    h.debt_order, h.weight_sign, h.weight_order, h.testCode_range, h.errorHandling_range,
    h.utilityCode_range, h.repeatedIssue_range, h.conditionalPath_range, h.criticalPath_range,
    h.compression_sign, h.window_minimum, h.minChars_sign, h.lookback_minimum, h.neutral_range,
    h.nesting_order, h.penaltyDepth_order, h.penaltyFactor_order, h.longFunction_order,
    h.functionComplexity_order, h.parameters_minimum, h.development_minimum]
  rfl

lemma exactDefaults_accepted : exactDefaults.Accepted := by
  constructor <;>
    norm_num [exactDefaults, Thresholds.defaults, Thresholds.defaultsOf, chain_nil,
      chain_cons_eq_ok_iff, anyOf_nil, anyOf_cons_eq_ok_iff, descends_singleton,
      descends_cons_eq_ok_iff, compare_eq_ok_iff, Comparison.Relates, Comparable.whole, Comparable.real]

end Proofs

end SourceGrade
