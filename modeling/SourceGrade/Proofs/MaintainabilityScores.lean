import Mathlib.Algebra.Order.BigOperators.Group.List
import Mathlib.Tactic.Linarith
import SourceGrade.Proofs.ExactArithmetic
import SourceGrade.Scoring.Maintainability

/-!
# Maintainability scores

Each kind of penalty costs no less when the measurements get worse, and has a greatest cost. In
exact arithmetic, therefore, worse measurements and dearer issues lower a maintainability score or
leave it, and the measurements alone take off 69 points at most.
-/

namespace SourceGrade

namespace Penalty

/-- The points of some penalties together. -/
def cost (ps : List Penalty) : Nat := Listing.total (ps.map (·.points))

end Penalty

namespace Metrics

/-- The penalties of some measurements by their kind. -/
def penaltyKinds {α : Type} [Scalar α] (m : Metrics α) : List (List Penalty) :=
  [Penalty.ofLength m, Penalty.ofNesting m, Penalty.ofDuplication m, Penalty.ofDocumentation m,
    Penalty.ofComments m, Penalty.ofCode m]

/-- Measurements that are at least as bad as others. -/
structure AtLeastAsBad (m' m : Metrics ℝ) : Prop where
  length : m.maxFunctionLength ≤ m'.maxFunctionLength
  nesting : m.maxNestingDepth ≤ m'.maxNestingDepth
  duplication : m.duplicationPercent ≤ m'.duplicationPercent
  code : m.linesOfCode ≤ m'.linesOfCode
  declarations : m.functionCount + m.classCount ≤ m'.functionCount + m'.classCount
  documentation : m'.documentationCoverage ≤ m.documentationCoverage
  comments : m'.commentRatio ≤ m.commentRatio

end Metrics

namespace Proofs

open Penalty (tier cost)

/-! ### Costs of penalties -/

section

variable {exceeds exceeds' : Int → Bool} {tiers : List (Int × Nat)}

lemma tier_cons (limit : Int) (points : Nat) :
    tier exceeds ((limit, points) :: tiers) =
      if exceeds limit then points else tier exceeds tiers := by
  unfold tier
  cases h : exceeds limit with
  | true => rw [List.find?_cons_of_pos (p := fun (p : Int × Nat) => exceeds p.1) h, if_pos rfl]; rfl
  | false => rw [List.find?_cons_of_neg (by simp [h]), if_neg Bool.false_ne_true]

lemma tier_le {bound : Nat} (h : ∀ p ∈ tiers, p.2 ≤ bound) (exceeds : Int → Bool) :
    tier exceeds tiers ≤ bound := by
  induction tiers with
  | nil => exact Nat.zero_le _
  | cons p tiers ih =>
    obtain ⟨hp, htiers⟩ := List.forall_mem_cons.mp h
    rw [tier_cons]
    split
    · exact hp
    · exact ih htiers

lemma tier_mono (hsorted : tiers.Pairwise fun p q => q.2 ≤ p.2)
    (h : ∀ limit, exceeds limit = true → exceeds' limit = true) :
    tier exceeds tiers ≤ tier exceeds' tiers := by
  induction tiers with
  | nil => exact le_rfl
  | cons p tiers ih =>
    obtain ⟨hp, htiers⟩ := List.pairwise_cons.mp hsorted
    rw [tier_cons, tier_cons]
    by_cases hlimit : exceeds p.1 = true
    · rw [if_pos hlimit, if_pos (h _ hlimit)]
    rw [if_neg hlimit]
    split
    · exact tier_le hp exceeds
    · exact ih htiers

end

lemma cost_singleton (p : Penalty) : cost [p] = p.points := rfl

lemma cost_append (ps qs : List Penalty) : cost (ps ++ qs) = cost ps + cost qs := by
  change ((ps ++ qs).map (·.points)).sum = (ps.map (·.points)).sum + (qs.map (·.points)).sum
  rw [List.map_append, List.sum_append]

lemma cost_perm {ps qs : List Penalty} (h : ps.Perm qs) : cost ps = cost qs :=
  (h.map Penalty.points).sum_eq

lemma cost_when (points : Nat) (reason : Text) : cost (Penalty.when points reason) = points := by
  unfold Penalty.when
  split
  · next hzero => exact hzero.symm
  · rfl

lemma penaltyPoints_eq {α : Type} [Scalar α] (m : Metrics α) :
    m.penaltyPoints = (m.penaltyKinds.map cost).sum := by
  have hsorted : m.penaltyPoints = cost m.penalties := rfl
  rw [hsorted, Metrics.penalties, cost_perm (List.mergeSort_perm _ _)]
  simp only [cost_append, Metrics.penaltyKinds, List.map_cons, List.map_nil, List.sum_cons,
    List.sum_nil]
  omega

lemma penaltyKinds_le {α : Type} [Scalar α] (m : Metrics α) :
    List.Forall₂ (· ≤ ·) (m.penaltyKinds.map cost) [20, 15, 15, 8, 3, 8] := by
  refine .cons ?_ (.cons ?_ (.cons ?_ (.cons ?_ (.cons ?_ (.cons ?_ .nil)))))
  · rw [Penalty.ofLength, cost_when]
    exact tier_le (by decide) _
  · rw [Penalty.ofNesting, cost_when]
    exact tier_le (by decide) _
  · rw [Penalty.ofDuplication, cost_when]
    exact tier_le (by decide) _
  · unfold Penalty.ofDocumentation
    split
    · rw [cost_when]
      exact tier_le (by decide) _
    · exact Nat.zero_le _
  · unfold Penalty.ofComments
    split
    · exact le_rfl
    · exact Nat.zero_le _
  · rw [Penalty.ofCode, cost_when]
    exact tier_le (by decide) _

lemma penaltyPoints_le {α : Type} [Scalar α] (m : Metrics α) : m.penaltyPoints ≤ 69 := by
  rw [penaltyPoints_eq]
  exact (penaltyKinds_le m).sum_le_sum

/-! ### Worse measurements -/

lemma gtInt_real (x : ℝ) (n : Int) : Scalar.gtInt x n = decide ((n : ℝ) < x) := by
  have hanswer : Scalar.gtInt x n = (some (compare x (n : ℝ)) == some .gt) := rfl
  rw [hanswer, Bool.eq_iff_iff, beq_iff_eq, Option.some_inj, compare_gt_iff_gt, decide_eq_true_iff]

lemma ltInt_real (x : ℝ) (n : Int) : Scalar.ltInt x n = decide (x < n) := by
  have hanswer : Scalar.ltInt x n = (some (compare x (n : ℝ)) == some .lt) := rfl
  rw [hanswer, Bool.eq_iff_iff, beq_iff_eq, Option.some_inj, compare_lt_iff_lt, decide_eq_true_iff]

variable {m m' : Metrics ℝ}

lemma cost_ofDocumentation_le (h : m'.AtLeastAsBad m) :
    cost (Penalty.ofDocumentation m) ≤ cost (Penalty.ofDocumentation m') := by
  unfold Penalty.ofDocumentation
  by_cases hdeclared : 0 < m.functionCount + m.classCount
  · rw [if_pos hdeclared, if_pos (hdeclared.trans_le h.declarations), cost_when, cost_when]
    refine tier_mono (by decide) fun limit hlimit => ?_
    rw [ltInt_real, decide_eq_true_iff] at hlimit ⊢
    exact h.documentation.trans_lt hlimit
  · rw [if_neg hdeclared]
    exact Nat.zero_le _

lemma cost_ofComments_le (h : m'.AtLeastAsBad m) :
    cost (Penalty.ofComments m) ≤ cost (Penalty.ofComments m') := by
  unfold Penalty.ofComments
  simp only [lt_real, Bool.and_eq_true, decide_eq_true_eq]
  by_cases hlacking : 20 < m.linesOfCode ∧ m.commentRatio < Scalar.ofRatio 5 100
  · rw [if_pos hlacking,
      if_pos ⟨hlacking.1.trans_le h.code, h.comments.trans_lt hlacking.2⟩]
  · rw [if_neg hlacking]
    exact Nat.zero_le _

/-- Worse measurements cost no less in any kind of penalty. -/
lemma penaltyKinds_mono (h : m'.AtLeastAsBad m) :
    List.Forall₂ (· ≤ ·) (m.penaltyKinds.map cost) (m'.penaltyKinds.map cost) := by
  refine .cons ?_ (.cons ?_ (.cons ?_ (.cons (cost_ofDocumentation_le h)
    (.cons (cost_ofComments_le h) (.cons ?_ .nil)))))
  · rw [Penalty.ofLength, Penalty.ofLength, cost_when, cost_when]
    refine tier_mono (by decide) fun limit hlimit => ?_
    exact decide_eq_true ((of_decide_eq_true hlimit).trans_le h.length)
  · rw [Penalty.ofNesting, Penalty.ofNesting, cost_when, cost_when]
    refine tier_mono (by decide) fun limit hlimit => ?_
    exact decide_eq_true ((of_decide_eq_true hlimit).trans_le h.nesting)
  · rw [Penalty.ofDuplication, Penalty.ofDuplication, cost_when, cost_when]
    refine tier_mono (by decide) fun limit hlimit => ?_
    rw [gtInt_real, decide_eq_true_iff] at hlimit ⊢
    exact hlimit.trans_le h.duplication
  · rw [Penalty.ofCode, Penalty.ofCode, cost_when, cost_when]
    refine tier_mono (by decide) fun limit hlimit => ?_
    exact decide_eq_true ((of_decide_eq_true hlimit).trans_le h.code)

lemma penaltyPoints_mono (h : m'.AtLeastAsBad m) : m.penaltyPoints ≤ m'.penaltyPoints := by
  rw [penaltyPoints_eq, penaltyPoints_eq]
  exact (penaltyKinds_mono h).sum_le_sum

/-! ### Scores and grades -/

lemma rank_gradeForScore_anti {x y : ℝ} (hxy : x ≤ y) (aMin bMin cMin : ℝ) :
    (gradeForScore y aMin bMin cMin).rank ≤ (gradeForScore x aMin bMin cMin).rank := by
  -- a limit that the higher score misses is missed by the lower one
  have hmissed : ∀ limit, ¬limit ≤ y → ¬limit ≤ x := fun limit hy hx => hy (hx.trans hxy)
  simp only [gradeForScore, le_real, decide_eq_true_eq]
  by_cases ha : aMin ≤ y
  · rw [if_pos ha]
    exact Nat.zero_le _
  rw [if_neg ha, if_neg (hmissed aMin ha)]
  by_cases hb : bMin ≤ y
  · rw [if_pos hb]
    split_ifs <;> decide
  rw [if_neg hb, if_neg (hmissed bMin hb)]
  by_cases hc : cMin ≤ y
  · rw [if_pos hc]
    split_ifs <;> decide
  rw [if_neg hc, if_neg (hmissed cMin hc)]

lemma rateMaintainability_eq {ι : Type} (t : Thresholds ι ℝ) (m : Metrics ℝ) (a : Aggregation ℝ) :
    ∃ r, rateMaintainability t m a = .ok r ∧
      r.score = min (max (100 - m.penaltyPoints - a.deduction) 0) 100 ∧
      r.grade = gradeForScore r.score t.maintainabilityAMin t.maintainabilityBMin
        t.maintainabilityCMin := by
  refine ⟨_, rfl, ?_, rfl⟩
  rw [maintainabilityRating, clampScore_real]
  simp

/-- Measurements that are at least as bad and issues that are at least as dear do not raise a
maintainability score, and do not improve its grade. Measurements alone cost 69 points at most. -/
theorem rateMaintainability_worse {ι : Type} (t : Thresholds ι ℝ) {m m' : Metrics ℝ}
    (hm : m'.AtLeastAsBad m) {a b : Aggregation ℝ} (ha : 0 ≤ a.deduction)
    (hle : a.deduction ≤ b.deduction) :
    (∃ r r', rateMaintainability t m a = .ok r ∧ rateMaintainability t m' b = .ok r' ∧
      r'.score ≤ r.score ∧ r.grade.rank ≤ r'.grade.rank ∧ max 0 (31 - a.deduction) ≤ r.score) ∧
      ∀ (α : Type) [Scalar α] (n : Metrics α), n.penaltyPoints ≤ 69 := by
  obtain ⟨r, hr, hscore, hgrade⟩ := rateMaintainability_eq t m a
  obtain ⟨r', hr', hscore', hgrade'⟩ := rateMaintainability_eq t m' b
  have hpoints : (m.penaltyPoints : ℝ) ≤ m'.penaltyPoints := by exact_mod_cast penaltyPoints_mono hm
  have hbound : (m.penaltyPoints : ℝ) ≤ 69 := by exact_mod_cast penaltyPoints_le m
  have hworse : r'.score ≤ r.score := by
    rw [hscore, hscore']
    gcongr
  refine ⟨⟨r, r', hr, hr', hworse, ?_, ?_⟩, fun α _ n => penaltyPoints_le n⟩
  · rw [hgrade, hgrade']
    exact rank_gradeForScore_anti hworse _ _ _
  · rw [hscore]
    exact max_le (by simp) (le_min (le_max_of_le_left (by linarith)) (by linarith))

/-- The measurements of a unit with every penalty at its dearest. -/
noncomputable def worstMetrics : Metrics ℝ :=
  { (Metrics.unknown : Metrics ℝ) with
    linesOfCode := 501
    functionCount := 1
    maxFunctionLength := 101
    maxNestingDepth := 6
    duplicationPercent := 21 }

theorem rateMaintainability_worse_worst :
    let t : Thresholds Int ℝ := Thresholds.defaults
    worstMetrics.AtLeastAsBad Metrics.unknown ∧ worstMetrics.penaltyPoints = 69 ∧
      ∃ r r', rateMaintainability t Metrics.unknown ⟨[], 0, 0⟩ = .ok r ∧
        rateMaintainability t worstMetrics ⟨[], 1, 1⟩ = .ok r' ∧ r'.score ≤ r.score ∧
          r.grade.rank ≤ r'.grade.rank := by
  intro t
  have hworse : worstMetrics.AtLeastAsBad Metrics.unknown := by
    constructor <;> simp [worstMetrics, Metrics.unknown]
  have hpoints : worstMetrics.penaltyPoints = 69 := by
    rw [penaltyPoints_eq]
    norm_num [Metrics.penaltyKinds, Penalty.ofLength, Penalty.ofNesting, Penalty.ofDuplication,
      Penalty.ofDocumentation, Penalty.ofComments, Penalty.ofCode, cost_when, tier_cons, gtInt_real,
      ltInt_real, lt_real, worstMetrics, Metrics.unknown, cost_singleton]
  obtain ⟨⟨r, r', hr, hr', hscore, hgrade, -⟩, -⟩ :=
    rateMaintainability_worse t hworse (a := ⟨[], 0, 0⟩) (b := ⟨[], 1, 1⟩) le_rfl zero_le_one
  exact ⟨hworse, hpoints, r, r', hr, hr', hscore, hgrade⟩

end Proofs

end SourceGrade
