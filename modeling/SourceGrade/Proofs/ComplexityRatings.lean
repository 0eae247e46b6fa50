import Mathlib.Tactic.Linarith
import SourceGrade.Proofs.ExactThresholds
import SourceGrade.Scoring.Complexity

/-!
# Complexity ratings

In exact arithmetic, more branching and deeper nesting raise a complexity, with one exception: more
branching can make nesting proportionate and so end a penalty that weighs more than what it adds.
With the usual thresholds the grade and the score of a complexity say the same.
-/

namespace SourceGrade

namespace Thresholds

/-- The greatest complexities of the grades, the last of which has none. -/
def complexityLimits (t : Thresholds Int ℝ) : List Int :=
  [t.complexityAMax, t.complexityBMax, t.complexityCMax]

/-- Growing from `raw` to `raw'` makes the nesting proportionate and so ends a penalty that weighs
more than the growth. -/
structure PenaltyEnds (t : Thresholds Int ℝ) (depth raw raw' : Int) : Prop where
  penalized : t.nestingPenaltyDepth ≤ depth
  not_severe : depth < t.nestingSevereDepth
  disproportionate : raw < depth * 2
  proportionate : depth * 2 ≤ raw'
  outweighs : (raw' : ℝ) < raw * t.nestingPenaltyFactor

end Thresholds

/-- The penalty of a complexity for a depth. -/
def NestingPenalty.between (t : Thresholds Int ℝ) (raw depth : Int) : NestingPenalty :=
  if t.nestingSevereDepth ≤ depth then severe
  else if t.nestingPenaltyDepth ≤ depth ∧ raw < depth * 2 then disproportionate
  else none

/-- A complexity times the factor of its penalty. -/
noncomputable def raised (t : Thresholds Int ℝ) (raw depth : Int) : ℝ :=
  raw * (NestingPenalty.between t raw depth).factor t

namespace Proofs

open LawfulComparable
open Thresholds (Accepted PenaltyEnds)

variable {t : Thresholds Int ℝ} {raw raw' depth depth' : Int}

/-! ### Raised complexities -/

lemma ofDepth_eq (t : Thresholds Int ℝ) (raw depth : Int) :
    NestingPenalty.ofDepth t depth (raw < depth * 2) = .ok (NestingPenalty.between t raw depth) := by
  have hcompare : ∀ limit : Int, Comparable.compare .ge (Comparable.whole depth) limit =
      .ok (decide (limit ≤ depth)) := by
    intro limit
    rw [compare_eq_ok_iff, decide_eq_true_iff]
    rfl
  unfold NestingPenalty.ofDepth NestingPenalty.between
  rw [hcompare, hcompare]
  by_cases hsevere : t.nestingSevereDepth ≤ depth
  · simp [hsevere, bind, Except.bind, pure, Except.pure]
  · by_cases hpenalty : t.nestingPenaltyDepth ≤ depth
    · simp [hsevere, hpenalty, bind, Except.bind, pure, Except.pure]
    · simp [hsevere, hpenalty, bind, Except.bind, pure, Except.pure]

lemma adjustedComplexity_eq (t : Thresholds Int ℝ) (raw depth : Int) :
    adjustedComplexity t raw depth = .ok (raised t raw depth) := by
  rw [adjustedComplexity, ofDepth_eq]
  exact congrArg (fun x => Except.ok (x * _)) (whole_real raw)

lemma between_severe (h : t.nestingSevereDepth ≤ depth) :
    NestingPenalty.between t raw depth = .severe := if_pos h

lemma between_disproportionate (hsevere : depth < t.nestingSevereDepth)
    (hpenalty : t.nestingPenaltyDepth ≤ depth ∧ raw < depth * 2) :
    NestingPenalty.between t raw depth = .disproportionate := by
  rw [NestingPenalty.between, if_neg hsevere.not_ge, if_pos hpenalty]

lemma between_none (hsevere : depth < t.nestingSevereDepth)
    (hpenalty : ¬(t.nestingPenaltyDepth ≤ depth ∧ raw < depth * 2)) :
    NestingPenalty.between t raw depth = .none := by
  rw [NestingPenalty.between, if_neg hsevere.not_ge, if_neg hpenalty]

lemma between_eq_or (t : Thresholds Int ℝ) (depth : Int) (hle : raw ≤ raw') :
    NestingPenalty.between t raw depth = NestingPenalty.between t raw' depth ∨
      (t.nestingPenaltyDepth ≤ depth ∧ depth < t.nestingSevereDepth ∧ raw < depth * 2 ∧
        depth * 2 ≤ raw') := by
  by_cases hsevere : t.nestingSevereDepth ≤ depth
  · exact .inl (by rw [between_severe hsevere, between_severe hsevere])
  have hsevere' := not_le.mp hsevere
  by_cases hpenalty : t.nestingPenaltyDepth ≤ depth ∧ raw < depth * 2
  · by_cases hpenalty' : raw' < depth * 2
    · left
      rw [between_disproportionate hsevere' hpenalty,
        between_disproportionate hsevere' ⟨hpenalty.1, hpenalty'⟩]
    · exact .inr ⟨hpenalty.1, hsevere', hpenalty.2, not_lt.mp hpenalty'⟩
  · left
    rw [between_none hsevere' hpenalty, between_none hsevere' (by omega)]

lemma raised_disproportionate (hpenalty : t.nestingPenaltyDepth ≤ depth)
    (hsevere : depth < t.nestingSevereDepth) (hlt : raw < depth * 2) :
    raised t raw depth = raw * t.nestingPenaltyFactor := by
  rw [raised, between_disproportionate hsevere ⟨hpenalty, hlt⟩]
  rfl

lemma raised_proportionate (hsevere : depth < t.nestingSevereDepth) (hle : depth * 2 ≤ raw) :
    raised t raw depth = raw := by
  rw [raised, between_none hsevere fun h => hle.not_gt h.2]
  simp [NestingPenalty.factor]

lemma penaltyFactors (h : t.Accepted) :
    1 ≤ t.nestingPenaltyFactor ∧ t.nestingPenaltyFactor ≤ t.nestingSevereFactor := by
  simpa [chain_cons_eq_ok_iff, chain_nil, compare_eq_ok_iff, Comparison.Relates,
    Comparable.real] using h.penaltyFactor_order

lemma one_le_factor (h : t.Accepted) (p : NestingPenalty) : 1 ≤ p.factor t := by
  obtain ⟨hpenalty, hsevere⟩ := penaltyFactors h
  cases p with
  | severe => exact hpenalty.trans hsevere
  | disproportionate => exact hpenalty
  | none => simp [NestingPenalty.factor]

lemma factor_le_severe (h : t.Accepted) (p : NestingPenalty) :
    p.factor t ≤ t.nestingSevereFactor := by
  obtain ⟨hpenalty, hsevere⟩ := penaltyFactors h
  cases p with
  | severe => exact le_rfl
  | disproportionate => exact hsevere
  | none => simpa [NestingPenalty.factor] using hpenalty.trans hsevere

lemma raised_mono (h : t.Accepted) (hle : raw ≤ raw') (hends : ¬t.PenaltyEnds depth raw raw') :
    raised t raw depth ≤ raised t raw' depth := by
  obtain heq | ⟨hpenalty, hsevere, hlt, hge⟩ := between_eq_or t depth hle
  · have hfactor := one_le_factor h (NestingPenalty.between t raw' depth)
    have hle' : (raw : ℝ) ≤ raw' := by exact_mod_cast hle
    rw [raised, raised, heq]
    gcongr
  · rw [raised_disproportionate hpenalty hsevere hlt, raised_proportionate hsevere hge]
    by_contra! houtweighs
    exact hends ⟨hpenalty, hsevere, hlt, hge, houtweighs⟩

/-- Where a penalty ends, more branching lowers a complexity, by the factor of the penalty at
most. -/
lemma raised_lt (h : t.Accepted) (hle : raw ≤ raw') (hends : t.PenaltyEnds depth raw raw') :
    raised t raw' depth < raised t raw depth ∧
      raised t raw depth ≤ t.nestingPenaltyFactor * raised t raw' depth := by
  have hfactor := (penaltyFactors h).1
  have hle' : (raw : ℝ) ≤ raw' := by exact_mod_cast hle
  rw [raised_disproportionate hends.penalized hends.not_severe hends.disproportionate,
    raised_proportionate hends.not_severe hends.proportionate, mul_comm t.nestingPenaltyFactor]
  exact ⟨hends.outweighs, by gcongr⟩

lemma factor_mono (h : t.Accepted) (raw : Int) (hdepth : depth ≤ depth') :
    (NestingPenalty.between t raw depth).factor t ≤
      (NestingPenalty.between t raw depth').factor t := by
  obtain hsevere | hsevere := le_or_gt t.nestingSevereDepth depth'
  · rw [between_severe hsevere]
    exact factor_le_severe h _
  -- short of severe nesting, a penalty is kept when the nesting gets deeper
  have hsevere' : depth < t.nestingSevereDepth := hdepth.trans_lt hsevere
  by_cases hpenalty : t.nestingPenaltyDepth ≤ depth ∧ raw < depth * 2
  · rw [between_disproportionate hsevere' hpenalty, between_disproportionate hsevere (by omega)]
  · rw [between_none hsevere' hpenalty]
    simpa [NestingPenalty.factor] using one_le_factor h (NestingPenalty.between t raw depth')

lemma raised_mono_depth (h : t.Accepted) (hraw : 0 ≤ raw) (hdepth : depth ≤ depth') :
    raised t raw depth ≤ raised t raw depth' := by
  have hraw' : (0 : ℝ) ≤ raw := by exact_mod_cast hraw
  exact mul_le_mul_of_nonneg_left (factor_mono h raw hdepth) hraw'

/-! ### Grades -/

lemma complexityGrade_eq (t : Thresholds Int ℝ) (x : ℝ) :
    complexityGrade t x = if x ≤ t.complexityAMax then .a else if x ≤ t.complexityBMax then .b
      else if x ≤ t.complexityCMax then .c else .d := by
  simp only [complexityGrade, LimitIn.toScalar, whole_real, le_real, decide_eq_true_eq]

lemma complexityLimits_order (h : t.Accepted) :
    t.complexityAMax < t.complexityBMax ∧ t.complexityBMax < t.complexityCMax := by
  simpa [chain_cons_eq_ok_iff, chain_nil, compare_eq_ok_iff, Comparison.Relates] using
    h.complexity_order

lemma rank_complexityGrade_le_iff (h : t.Accepted) (x : ℝ) :
    ((complexityGrade t x).rank ≤ 0 ↔ x ≤ t.complexityAMax) ∧
      ((complexityGrade t x).rank ≤ 1 ↔ x ≤ t.complexityBMax) ∧
      ((complexityGrade t x).rank ≤ 2 ↔ x ≤ t.complexityCMax) := by
  obtain ⟨hab, hbc⟩ := complexityLimits_order h
  have hab' : (t.complexityAMax : ℝ) ≤ t.complexityBMax := by exact_mod_cast hab.le
  have hbc' : (t.complexityBMax : ℝ) ≤ t.complexityCMax := by exact_mod_cast hbc.le
  rw [complexityGrade_eq]
  split_ifs with ha hb hc
  · simp [Grade.rank, ha, ha.trans hab', (ha.trans hab').trans hbc']
  · simp [Grade.rank, ha, hb, hb.trans hbc']
  · simp [Grade.rank, ha, hb, hc]
  · simp [Grade.rank, ha, hb, hc]

lemma rank_le_three (g : Grade) : g.rank ≤ 3 := by
  cases g <;> decide

lemma rank_complexityGrade_lt_iff (h : t.Accepted) {x y : ℝ} :
    (complexityGrade t y).rank < (complexityGrade t x).rank ↔
      ∃ limit ∈ t.complexityLimits, y ≤ limit ∧ limit < x := by
  obtain ⟨hax, hbx, hcx⟩ := rank_complexityGrade_le_iff h x
  obtain ⟨hay, hby, hcy⟩ := rank_complexityGrade_le_iff h y
  -- the limits say what the ranks are, and the rest is about those
  have hlast := rank_le_three (complexityGrade t x)
  simp only [Thresholds.complexityLimits, List.mem_cons, List.not_mem_nil, or_false,
    exists_eq_or_imp, exists_eq_left, ← not_le, ← hax, ← hbx, ← hcx, ← hay, ← hby, ← hcy]
  omega

lemma rank_complexityGrade_mono (h : t.Accepted) {x y : ℝ} (hxy : x ≤ y) :
    (complexityGrade t x).rank ≤ (complexityGrade t y).rank := by
  by_contra! hlt
  obtain ⟨limit, -, hy, hx⟩ := (rank_complexityGrade_lt_iff h).mp hlt
  exact (hxy.trans hy).not_gt hx

lemma rateComplexity_eq (t : Thresholds Int ℝ) (raw depth : Int) (adjusted : ℝ)
    (hotspots : List Text) : ∃ rating, rateComplexity t raw depth adjusted hotspots = .ok rating ∧
      rating.grade = complexityGrade t adjusted ∧ rating.score = complexityScore adjusted :=
  ⟨_, rfl, rfl, rfl⟩

/-! ### More branching and deeper nesting -/

lemma nestingPenaltyFactor_usual : exactDefaults.nestingPenaltyFactor = 23 / 20 := by
  norm_num [exactDefaults, Thresholds.defaults, Thresholds.defaultsOf]

/-- At depth 5 a complexity of 9 is penalized and one of 10 is not, and so the latter is graded
better. -/
theorem rateComplexity_improves :
    exactDefaults.validate = .ok () ∧
      adjustedComplexity exactDefaults 9 5 = .ok (207 / 20) ∧
      adjustedComplexity exactDefaults 10 5 = .ok 10 ∧ ¬(207 / 20 : ℝ) ≤ 10 ∧
      ∃ rating rating', rateComplexity exactDefaults 9 5 (207 / 20) [] = .ok rating ∧
        rateComplexity exactDefaults 10 5 10 [] = .ok rating' ∧ rating.grade = .b ∧
        rating'.grade = .a ∧ ¬rating.grade.rank ≤ rating'.grade.rank := by
  have hlimits : exactDefaults.nestingPenaltyDepth = 4 ∧ exactDefaults.nestingSevereDepth = 6 ∧
      exactDefaults.complexityAMax = 10 ∧ exactDefaults.complexityBMax = 20 := ⟨rfl, rfl, rfl, rfl⟩
  obtain ⟨hpenalty, hsevere, ha, hb⟩ := hlimits
  refine ⟨validate_of_accepted exactDefaults_accepted, ?_, ?_, by norm_num, _, _, rfl, rfl, ?_⟩
  · rw [adjustedComplexity_eq, raised_disproportionate (by omega) (by omega) (by omega),
      nestingPenaltyFactor_usual]
    norm_num
  · rw [adjustedComplexity_eq, raised_proportionate (by omega) (by omega)]
    norm_num
  · have hgrade : complexityGrade exactDefaults (207 / 20) = .b := by
      norm_num [complexityGrade_eq, ha, hb]
    have hgrade' : complexityGrade exactDefaults 10 = .a := by
      norm_num [complexityGrade_eq, ha]
    refine ⟨hgrade, hgrade', ?_⟩
    change ¬(complexityGrade exactDefaults (207 / 20)).rank ≤ (complexityGrade exactDefaults 10).rank
    rw [hgrade, hgrade']
    decide

/-- More branching raises a complexity and does not improve its grade, unless it ends a penalty that
weighs more than what it adds. Then the complexity becomes lower, by the factor of the penalty at
most, and the grade better exactly if a limit lies in between. Deeper nesting does not lower a
complexity. -/
theorem rateComplexity_mono (t : Thresholds Int ℝ) (h : t.validate = .ok ()) {raw : Int}
    (hraw : 1 ≤ raw) (depth : Int) :
    (∀ raw', raw ≤ raw' → ∀ hotspots hotspots', ∃ x y rating rating',
      (adjustedComplexity t raw depth = .ok x ∧
        rateComplexity t raw depth x hotspots = .ok rating) ∧
      (adjustedComplexity t raw' depth = .ok y ∧
        rateComplexity t raw' depth y hotspots' = .ok rating') ∧
      (¬t.PenaltyEnds depth raw raw' → x ≤ y ∧ rating.grade.rank ≤ rating'.grade.rank) ∧
      (t.PenaltyEnds depth raw raw' →
        (y < x ∧ x ≤ t.nestingPenaltyFactor * y) ∧
          (rating'.grade.rank < rating.grade.rank ↔
            ∃ limit ∈ t.complexityLimits, y ≤ limit ∧ limit < x))) ∧
      ∀ depth', depth ≤ depth' → ∃ x y, adjustedComplexity t raw depth = .ok x ∧
        adjustedComplexity t raw depth' = .ok y ∧ x ≤ y := by
  have haccepted := accepted_of_validate h
  refine ⟨fun raw' hle hotspots hotspots' => ?_, fun depth' hdepth => ?_⟩
  · obtain ⟨rating, hrating, hgrade, -⟩ :=
      rateComplexity_eq t raw depth (raised t raw depth) hotspots
    obtain ⟨rating', hrating', hgrade', -⟩ :=
      rateComplexity_eq t raw' depth (raised t raw' depth) hotspots'
    refine ⟨_, _, rating, rating', ⟨adjustedComplexity_eq t raw depth, hrating⟩,
      ⟨adjustedComplexity_eq t raw' depth, hrating'⟩, fun hends => ?_, fun hends => ?_⟩
    · have hmono := raised_mono haccepted hle hends
      rw [hgrade, hgrade']
      exact ⟨hmono, rank_complexityGrade_mono haccepted hmono⟩
    · rw [hgrade, hgrade']
      exact ⟨raised_lt haccepted hle hends, rank_complexityGrade_lt_iff haccepted⟩
  · exact ⟨_, _, adjustedComplexity_eq t raw depth, adjustedComplexity_eq t raw depth',
      raised_mono_depth haccepted (by omega) hdepth⟩

theorem rateComplexity_mono_usual :
    exactDefaults.validate = .ok () ∧ (1 : Int) ≤ 9 ∧ (9 : Int) ≤ 11 ∧
      ¬exactDefaults.PenaltyEnds 5 9 11 ∧
      ∃ x y, adjustedComplexity exactDefaults 9 5 = .ok x ∧
        adjustedComplexity exactDefaults 11 5 = .ok y ∧ x ≤ y := by
  have haccepted := validate_of_accepted exactDefaults_accepted
  have hends : ¬exactDefaults.PenaltyEnds 5 9 11 := by
    intro hends
    have houtweighs := hends.outweighs
    rw [nestingPenaltyFactor_usual] at houtweighs
    norm_num at houtweighs
  obtain ⟨x, y, _, _, ⟨hx, -⟩, ⟨hy, -⟩, hmono, -⟩ :=
    (rateComplexity_mono exactDefaults haccepted (by decide : (1 : Int) ≤ 9) 5).1 11 (by decide)
      [] []
  exact ⟨haccepted, by decide, by decide, hends, x, y, hx, hy, (hmono hends).1⟩

/-! ### Scores -/

lemma complexityScore_eq (x : ℝ) :
    complexityScore x = min (max (if x ≤ 10 then 100 - (x - 1) * 10 / 9 else 100 - x) 0) 100 := by
  rw [complexityScore, clampScore_real]
  congr 2
  simp only [leInt_real, decide_eq_true_eq, ofInt_real, whole_real]
  push_cast
  split_ifs <;> ring

lemma complexityScore_antitone : Antitone (complexityScore : ℝ → ℝ) := by
  intro x y hxy
  rw [complexityScore_eq, complexityScore_eq]
  refine min_le_min_right _ (max_le_max_right _ ?_)
  split_ifs <;> linarith

lemma le_complexityScore_iff {x low : ℝ} (hpos : 0 < low) (hle : low ≤ 90) :
    low ≤ complexityScore x ↔ x ≤ 100 - low := by
  rw [complexityScore_eq, le_min_iff, le_max_iff, and_iff_left (by linarith),
    or_iff_left hpos.not_ge]
  -- up to 10 the score is at least 90, and from there it is what the complexity leaves of 100
  split_ifs with hx
  · exact iff_of_true (by linarith) (by linarith)
  · exact le_sub_comm

lemma complexityScore_mem (x : ℝ) : complexityScore x ∈ Set.Icc 0 100 := by
  rw [complexityScore, clampScore_real]
  exact ⟨le_min (le_max_right _ _) (by norm_num), min_le_right _ _⟩

lemma complexityGrade_usual (x : ℝ) :
    (complexityGrade exactDefaults x = .a ↔ x ≤ 10) ∧
      (complexityGrade exactDefaults x = .b ↔ x ≤ 20 ∧ ¬x ≤ 10) ∧
      (complexityGrade exactDefaults x = .c ↔ x ≤ 30 ∧ ¬x ≤ 20) ∧
      (complexityGrade exactDefaults x = .d ↔ ¬x ≤ 30) := by
  have hlimits : (exactDefaults.complexityAMax : ℝ) = 10 ∧
      (exactDefaults.complexityBMax : ℝ) = 20 ∧ (exactDefaults.complexityCMax : ℝ) = 30 := by
    norm_num [exactDefaults, Thresholds.defaults, Thresholds.defaultsOf, Comparable.whole]
  obtain ⟨ha, hb, hc⟩ := rank_complexityGrade_le_iff exactDefaults_accepted x
  rw [hlimits.1] at ha
  rw [hlimits.2.1] at hb
  rw [hlimits.2.2] at hc
  rw [← ha, ← hb, ← hc]
  cases complexityGrade exactDefaults x <;> decide

/-- Under the usual thresholds, the grade of a complexity is the one that its score stands for, and
the score falls as the raised complexity rises. -/
theorem rateComplexity_grade_iff_score :
    (∀ (raw depth : Int) (hotspots : List Text), ∃ adjusted rating,
      adjustedComplexity exactDefaults raw depth = .ok adjusted ∧
        rateComplexity exactDefaults raw depth adjusted hotspots = .ok rating ∧
        rating.score = complexityScore adjusted ∧
        (rating.grade = .a ↔ 90 ≤ rating.score) ∧
        (rating.grade = .b ↔ 80 ≤ rating.score ∧ rating.score < 90) ∧
        (rating.grade = .c ↔ 70 ≤ rating.score ∧ rating.score < 80) ∧
        (rating.grade = .d ↔ rating.score < 70) ∧ 0 ≤ rating.score ∧ rating.score ≤ 100) ∧
      Antitone (complexityScore : ℝ → ℝ) := by
  refine ⟨fun raw depth hotspots => ?_, complexityScore_antitone⟩
  obtain ⟨rating, hrating, hgrade, hscore⟩ :=
    rateComplexity_eq exactDefaults raw depth (raised exactDefaults raw depth) hotspots
  refine ⟨_, rating, adjustedComplexity_eq _ raw depth, hrating, hscore, ?_⟩
  set x := raised exactDefaults raw depth
  obtain ⟨ha, hb, hc, hd⟩ := complexityGrade_usual x
  have hten : 90 ≤ complexityScore x ↔ x ≤ 10 :=
    (le_complexityScore_iff (by norm_num) le_rfl).trans (by norm_num)
  have htwenty : 80 ≤ complexityScore x ↔ x ≤ 20 :=
    (le_complexityScore_iff (by norm_num) (by norm_num)).trans (by norm_num)
  have hthirty : 70 ≤ complexityScore x ↔ x ≤ 30 :=
    (le_complexityScore_iff (by norm_num) (by norm_num)).trans (by norm_num)
  rw [hgrade, hscore, ha, hb, hc, hd, ← not_le, ← not_le, ← not_le, hten, htwenty, hthirty]
  exact ⟨Iff.rfl, Iff.rfl, Iff.rfl, Iff.rfl, complexityScore_mem x⟩

end Proofs

end SourceGrade
