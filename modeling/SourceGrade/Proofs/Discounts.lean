import Mathlib.Algebra.BigOperators.Group.List.Basic
import Mathlib.Algebra.Order.BigOperators.Group.List
import Mathlib.Order.Interval.Set.Basic
import Mathlib.Tactic.Linarith
import SourceGrade.Proofs.ExactThresholds
import SourceGrade.Proofs.IssueGroups

/-!
# Discounts

In exact arithmetic, an accepted table of thresholds discounts a group of issues for the code around
them and for the way to them by factors above 0 and up to 1. Critical issues keep the floor of the
table. The factors of a group, its severity and its cost do not depend on the order of its issues.
-/

namespace SourceGrade

variable {ι : Type}

namespace Thresholds

/-- The factor of the tag that discounts the most. -/
noncomputable def leastTagFactor (t : Thresholds ι ℝ) : ℝ :=
  min (min t.testCodeFactor t.errorHandlingFactor) t.utilityCodeFactor

/-- All factors by which issues are discounted are shares of the whole. -/
structure Discounting (t : Thresholds ι ℝ) : Prop where
  testCode : t.testCodeFactor ∈ Set.Ioc 0 1
  errorHandling : t.errorHandlingFactor ∈ Set.Ioc 0 1
  utilityCode : t.utilityCodeFactor ∈ Set.Ioc 0 1
  repeatedIssue : t.repeatedIssueFactor ∈ Set.Ioc 0 1
  conditionalPath : t.conditionalPathFactor ∈ Set.Ioc 0 1
  criticalPath : t.criticalPathFloor ∈ Set.Ioc 0 1

end Thresholds

/-- The discount of one issue for a condition on the way to it. -/
noncomputable def conditionFactor (t : Thresholds ι ℝ) (i : Issue) : ℝ :=
  if i.context.contains ("conditional" : Text) then t.conditionalPathFactor else Scalar.ofInt 1

namespace Proofs

open LawfulComparable
open Thresholds (Accepted Discounting chain)

lemma range_of_chain {x : ℝ}
    (h : chain (Comparable.real 0) [(.lt, x), (.le, Comparable.real 1)] = .ok true) :
    x ∈ Set.Ioc 0 1 := by
  simpa [chain_cons_eq_ok_iff, chain_nil, compare_eq_ok_iff, Comparison.Relates,
    Comparable.real] using h

lemma discounting_of_accepted [Comparable ι] {t : Thresholds ι ℝ} (h : t.Accepted) :
    t.Discounting where
  testCode := range_of_chain h.testCode_range
  errorHandling := range_of_chain h.errorHandling_range
  utilityCode := range_of_chain h.utilityCode_range
  repeatedIssue := range_of_chain h.repeatedIssue_range
  conditionalPath := range_of_chain h.conditionalPath_range
  criticalPath := range_of_chain h.criticalPath_range

/-! ### Means -/

section

variable {low high : ℝ} {xs ys : List ℝ}

lemma sum_ge (h : ∀ y ∈ xs, low ≤ y) : low * xs.length ≤ xs.sum := by
  have hsum := List.card_nsmul_le_sum xs low h
  rwa [nsmul_eq_mul, mul_comm] at hsum

lemma sum_le (h : ∀ y ∈ xs, y ≤ high) : xs.sum ≤ high * xs.length := by
  have hsum := List.sum_le_card_nsmul xs high h
  rwa [nsmul_eq_mul, mul_comm] at hsum

lemma mean_mem_Icc (hne : xs ≠ []) (h : ∀ x ∈ xs, x ∈ Set.Icc low high) :
    Scalar.mean xs ∈ Set.Icc low high := by
  have hlength : (0 : ℝ) < xs.length := by exact_mod_cast List.length_pos_iff.mpr hne
  rw [mean_real]
  exact ⟨(le_div_iff₀ hlength).mpr (sum_ge fun x hx => (h x hx).1),
    (div_le_iff₀ hlength).mpr (sum_le fun x hx => (h x hx).2)⟩

lemma mean_perm (h : xs.Perm ys) : Scalar.mean xs = Scalar.mean ys := by
  rw [mean_real, mean_real, h.sum_eq, h.length_eq]

lemma foldl_min_bounds {a : ℝ} (ha : low ≤ a) (hxs : ∀ x ∈ xs, low ≤ x) :
    low ≤ xs.foldl Scalar.min a ∧ xs.foldl Scalar.min a ≤ a := by
  induction xs generalizing a with
  | nil => exact ⟨ha, le_rfl⟩
  | cons x xs ih =>
    obtain ⟨hx, hxs⟩ := List.forall_mem_cons.mp hxs
    rw [List.foldl_cons, min_real]
    obtain ⟨hlow, hhigh⟩ := ih (le_min ha hx) hxs
    exact ⟨hlow, hhigh.trans (min_le_left a x)⟩

end

/-! ### One issue -/

variable {t : Thresholds ι ℝ}

lemma leastTagFactor_mem (h : t.Discounting) : t.leastTagFactor ∈ Set.Ioc 0 1 :=
  ⟨lt_min (lt_min h.testCode.1 h.errorHandling.1) h.utilityCode.1,
    (min_le_right _ _).trans h.utilityCode.2⟩

lemma leastTagFactor_le {tag : Text} {x : ℝ} (h : t.tagFactor? tag = some x) :
    t.leastTagFactor ≤ x := by
  unfold Thresholds.tagFactor? at h
  split_ifs at h
  · obtain rfl := Option.some.inj h
    exact (min_le_left _ _).trans (min_le_left _ _)
  · obtain rfl := Option.some.inj h
    exact (min_le_left _ _).trans (min_le_right _ _)
  · obtain rfl := Option.some.inj h
    exact min_le_right _ _

lemma issueFactor_mem (h : t.Discounting) (i : Issue) :
    issueFactor t i ∈ Set.Icc t.leastTagFactor 1 := by
  have htags : ∀ x ∈ i.context.filterMap t.tagFactor?, t.leastTagFactor ≤ x := by
    intro x hx
    obtain ⟨tag, -, htag⟩ := List.mem_filterMap.mp hx
    exact leastTagFactor_le htag
  simpa [issueFactor] using foldl_min_bounds (leastTagFactor_mem h).2 htags

lemma conditionFactor_mem (h : t.Discounting) (i : Issue) :
    conditionFactor t i ∈ Set.Icc t.conditionalPathFactor 1 := by
  unfold conditionFactor
  split
  · exact ⟨le_rfl, h.conditionalPath.2⟩
  · rw [ofInt_real, Int.cast_one]
    exact ⟨h.conditionalPath.2, le_rfl⟩

/-! ### Groups of issues -/

section

variable {issues : List Issue}

lemma contextFactor_eq (hne : issues ≠ []) :
    contextFactor t issues = Scalar.mean (issues.map (issueFactor t)) *
      if issues.length = 1 then 1 else t.repeatedIssueFactor := by
  match issues with
  | [] => exact absurd rfl hne
  | [i] => simp [contextFactor]
  | i :: j :: rest => simp [contextFactor]

lemma pathFactor_eq (hne : issues ≠ []) (critical : Bool) :
    pathFactor t issues critical =
      if critical then max (Scalar.mean (issues.map (conditionFactor t))) t.criticalPathFloor
      else Scalar.mean (issues.map (conditionFactor t)) := by
  match issues with
  | [] => exact absurd rfl hne
  | i :: rest => exact congrArg (fun x => if critical then x else _) (max_real _ _)

lemma contextFactor_mem (h : t.Discounting) (hne : issues ≠ []) :
    contextFactor t issues ∈ Set.Icc (t.repeatedIssueFactor * t.leastTagFactor) 1 := by
  have hmean : Scalar.mean (issues.map (issueFactor t)) ∈ Set.Icc t.leastTagFactor 1 :=
    mean_mem_Icc (by simpa using hne) (List.forall_mem_map.mpr fun i _ => issueFactor_mem h i)
  have hleast := (leastTagFactor_mem h).1
  obtain ⟨hpos, hle⟩ := h.repeatedIssue
  rw [contextFactor_eq hne]
  -- one issue has no discount for repeats, and that keeps it above the bound all the more
  split
  · constructor
    · nlinarith [hmean.1]
    · linarith [hmean.2]
  · constructor
    · nlinarith [hmean.1]
    · nlinarith [hmean.1, hmean.2]

lemma pathFactor_mem (h : t.Discounting) (hne : issues ≠ []) (critical : Bool) :
    pathFactor t issues critical ∈ Set.Icc t.conditionalPathFactor 1 := by
  have hmean : Scalar.mean (issues.map (conditionFactor t)) ∈ Set.Icc t.conditionalPathFactor 1 :=
    mean_mem_Icc (by simpa using hne) (List.forall_mem_map.mpr fun i _ => conditionFactor_mem h i)
  rw [pathFactor_eq hne]
  cases critical with
  | false => exact hmean
  | true => exact ⟨le_max_of_le_left hmean.1, max_le hmean.2 h.criticalPath.2⟩

lemma criticalPathFloor_le (hne : issues ≠ []) :
    t.criticalPathFloor ≤ pathFactor t issues true := by
  rw [pathFactor_eq hne]
  exact le_max_right _ _

end

/-! ### The order of issues -/

section

variable {xs ys : List Issue} {first first' : Issue} {others others' : List Issue}

lemma contextFactor_perm (h : xs.Perm ys) : contextFactor t xs = contextFactor t ys := by
  by_cases hne : xs = []
  · subst hne
    rw [h.nil_eq]
  · have hne' : ys ≠ [] := fun hnil => hne (hnil ▸ h).eq_nil
    rw [contextFactor_eq hne, contextFactor_eq hne', mean_perm (h.map _), h.length_eq]

lemma pathFactor_perm (h : xs.Perm ys) (critical : Bool) :
    pathFactor t xs critical = pathFactor t ys critical := by
  by_cases hne : xs = []
  · subst hne
    rw [h.nil_eq]
  · have hne' : ys ≠ [] := fun hnil => hne (hnil ▸ h).eq_nil
    rw [pathFactor_eq hne, pathFactor_eq hne', mean_perm (h.map _)]

lemma rank_injective : Function.Injective Severity.rank := by
  intro s s' h
  cases s <;> cases s' <;> first | rfl | cases h

lemma highest_perm {s s' : Severity} {rest rest' : List Severity}
    (h : (s :: rest).Perm (s' :: rest')) : s.highest rest = s'.highest rest' := by
  obtain ⟨hmem, hle⟩ := highest_spec s rest
  obtain ⟨hmem', hle'⟩ := highest_spec s' rest'
  exact rank_injective (le_antisymm (hle' _ (h.mem_iff.mp hmem)) (hle _ (h.mem_iff.mpr hmem')))

lemma groupDeduction_perm (h : (first :: others).Perm (first' :: others')) (critical : Bool) :
    groupDeduction t first others critical = groupDeduction t first' others' critical := by
  have hseverity := highest_perm (h.map (·.severity))
  simp only [groupDeduction, hseverity, h.length_eq, contextFactor_perm h, pathFactor_perm h]

end

/-! ### Main results -/

/-- Under an accepted table, the factors of a group of issues are above 0 and at most 1; the factor
for the code around them is no less than the greatest discount of a tag and the one for repeats
together make it, and critical issues keep the floor. Nothing about a group depends on the order of
its issues. -/
theorem accepted_factors_bounded [Comparable ι] (t : Thresholds ι ℝ) (h : t.validate = .ok ())
    (first : Issue) (others : List Issue) :
    let issues := first :: others
    (0 < contextFactor t issues ∧ contextFactor t issues ≤ 1) ∧
      (∀ critical, 0 < pathFactor t issues critical ∧ pathFactor t issues critical ≤ 1) ∧
      t.criticalPathFloor ≤ pathFactor t issues true ∧
      t.repeatedIssueFactor *
          min (min t.testCodeFactor t.errorHandlingFactor) t.utilityCodeFactor ≤
        contextFactor t issues ∧
      ∀ first' others', (first' :: others').Perm issues →
        contextFactor t (first' :: others') = contextFactor t issues ∧
          ∀ critical, pathFactor t (first' :: others') critical = pathFactor t issues critical ∧
            groupDeduction t first' others' critical = groupDeduction t first others critical := by
  intro issues
  have hdiscounting := discounting_of_accepted (accepted_of_validate h)
  have hne : issues ≠ [] := List.cons_ne_nil first others
  obtain ⟨hcontext, hcontext'⟩ := contextFactor_mem hdiscounting hne
  have hpos : 0 < t.repeatedIssueFactor * t.leastTagFactor :=
    mul_pos hdiscounting.repeatedIssue.1 (leastTagFactor_mem hdiscounting).1
  refine ⟨⟨hpos.trans_le hcontext, hcontext'⟩, fun critical => ?_, criticalPathFloor_le hne,
    hcontext, fun first' others' hperm => ⟨contextFactor_perm hperm, fun critical =>
      ⟨pathFactor_perm hperm critical, groupDeduction_perm hperm critical⟩⟩⟩
  obtain ⟨hpath, hpath'⟩ := pathFactor_mem hdiscounting hne critical
  exact ⟨hdiscounting.conditionalPath.1.trans_le hpath, hpath'⟩

/-- Two critical divisions, one of them in a test and on a conditional path, cost the same in both
orders, and together they keep the floor for critical issues. -/
theorem accepted_factors_bounded_divisions :
    let plain := divisionBy "count" .critical
    let tested := { divisionBy "size" .blocker with context := ["test", "conditional", "try"] }
    exactDefaults.validate = .ok () ∧
      exactDefaults.criticalPathFloor ≤ pathFactor exactDefaults [plain, tested] true ∧
      groupDeduction exactDefaults tested [plain] true =
        groupDeduction exactDefaults plain [tested] true := by
  intro plain tested
  have haccepted := validate_of_accepted exactDefaults_accepted
  obtain ⟨-, -, hfloor, -, hperm⟩ := accepted_factors_bounded exactDefaults haccepted plain [tested]
  exact ⟨haccepted, hfloor, ((hperm tested [plain] (List.Perm.swap _ _ _)).2 true).2⟩

end Proofs

end SourceGrade
