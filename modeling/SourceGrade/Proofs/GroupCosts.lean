import Mathlib.Tactic.Linarith
import Mathlib.Tactic.NormNum
import SourceGrade.Proofs.Discounts

/-!
# Costs of growing groups

In exact arithmetic and with the usual thresholds, a group that gets more issues keeps at least
three tenths of its cost. A group of one issue keeps all of it, and so does any group whose size
makes up for what its factors for the code around its issues lose.
-/

namespace SourceGrade

/-- The discount of one issue for a condition on the way to it, under the usual thresholds. -/
noncomputable def pathDiscount (i : Issue) : ℝ :=
  if i.context.contains ("conditional" : Text) then exactDefaults.conditionalPathFactor
  else Scalar.ofInt 1

namespace Proofs

/-! ### Means -/

/-- The mean of a first number and others. -/
noncomputable def meanOf (x : ℝ) (xs : List ℝ) : ℝ := (x + xs.sum) / (1 + xs.length)

lemma mean_cons (x : ℝ) (xs : List ℝ) : Scalar.mean (x :: xs) = meanOf x xs := by
  rw [mean_real, meanOf, List.sum_cons, List.length_cons, Nat.cast_succ, add_comm 1]

section

variable {x low high : ℝ} {xs : List ℝ}

lemma one_add_length_pos : (0 : ℝ) < 1 + xs.length := by positivity

lemma le_meanOf_cons (h : ∀ y ∈ xs, low ≤ y) :
    (x + low * xs.length) / (1 + xs.length) ≤ meanOf x xs := by
  have hsum := sum_ge h
  have hpos : (0 : ℝ) < 1 + xs.length := one_add_length_pos
  unfold meanOf
  gcongr

lemma meanOf_le (hx : x ≤ high) (h : ∀ y ∈ xs, y ≤ high) : meanOf x xs ≤ high := by
  have hsum := sum_le h
  rw [meanOf, div_le_iff₀ one_add_length_pos]
  linarith

lemma meanOf_le_append {ys : List ℝ} (h : ∀ y ∈ ys, ∀ z ∈ x :: xs, z ≤ y) :
    meanOf x xs ≤ meanOf x (xs ++ ys) := by
  have hmean : ∀ y ∈ ys, meanOf x xs ≤ y := by
    intro y hy
    obtain ⟨hx, hxs⟩ := List.forall_mem_cons.mp (h y hy)
    exact meanOf_le hx hxs
  have hsum := sum_ge hmean
  have hmul : meanOf x xs * (1 + xs.length) = x + xs.sum :=
    div_mul_cancel₀ _ one_add_length_pos.ne'
  have hpos : (0 : ℝ) < 1 + (xs ++ ys).length := one_add_length_pos
  rw [meanOf.eq_1 x (xs ++ ys), le_div_iff₀ hpos, List.length_append, List.sum_append]
  push_cast
  linarith

end

/-! ### Weights and discounts -/

lemma weight_pos (s : Severity) : 0 < exactDefaults.weight s := by
  cases s <;>
    norm_num [exactDefaults, Thresholds.weight, Thresholds.defaults, Thresholds.defaultsOf]

lemma weight_mono {s s' : Severity} (h : s.rank ≤ s'.rank) :
    exactDefaults.weight s ≤ exactDefaults.weight s' := by
  cases s <;> cases s' <;> simp [Severity.rank] at h <;>
    norm_num [exactDefaults, Thresholds.weight, Thresholds.defaults, Thresholds.defaultsOf]

lemma exactDefaults_discounting : exactDefaults.Discounting :=
  discounting_of_accepted exactDefaults_accepted

lemma factors_usual :
    exactDefaults.leastTagFactor = 1 / 2 ∧ exactDefaults.repeatedIssueFactor = 9 / 10 ∧
      exactDefaults.conditionalPathFactor = 6 / 10 ∧ exactDefaults.criticalPathFloor = 7 / 10 := by
  norm_num [Thresholds.leastTagFactor, exactDefaults, Thresholds.defaults, Thresholds.defaultsOf]

lemma issueFactor_bounds (i : Issue) :
    1 / 2 ≤ issueFactor exactDefaults i ∧ issueFactor exactDefaults i ≤ 1 := by
  obtain ⟨htag, -⟩ := factors_usual
  rw [← htag]
  exact issueFactor_mem exactDefaults_discounting i

lemma pathDiscount_bounds (i : Issue) : 6 / 10 ≤ pathDiscount i ∧ pathDiscount i ≤ 1 := by
  obtain ⟨-, -, hconditional, -⟩ := factors_usual
  rw [← hconditional]
  exact conditionFactor_mem exactDefaults_discounting i

lemma contextFactor_single (i : Issue) :
    contextFactor exactDefaults [i] = issueFactor exactDefaults i := by
  rw [contextFactor_eq (List.cons_ne_nil i []), List.map_singleton, mean_cons]
  simp [meanOf]

lemma contextFactor_many (i : Issue) {others : List Issue} (hne : others ≠ []) :
    contextFactor exactDefaults (i :: others) =
      meanOf (issueFactor exactDefaults i) (others.map (issueFactor exactDefaults)) * (9 / 10) := by
  obtain ⟨-, hrepeated, -⟩ := factors_usual
  rw [contextFactor_eq (List.cons_ne_nil i others), List.map_cons, mean_cons, hrepeated,
    if_neg (by simpa using hne)]

lemma pathFactor_cons (i : Issue) (others : List Issue) (critical : Bool) :
    pathFactor exactDefaults (i :: others) critical =
      if critical then max (meanOf (pathDiscount i) (others.map pathDiscount)) (7 / 10)
      else meanOf (pathDiscount i) (others.map pathDiscount) := by
  have hmean : Scalar.mean ((i :: others).map (conditionFactor exactDefaults)) =
      meanOf (pathDiscount i) (others.map pathDiscount) := mean_cons _ _
  obtain ⟨-, -, -, hfloor⟩ := factors_usual
  rw [pathFactor_eq (List.cons_ne_nil i others), hmean, hfloor]

lemma pathFactor_bounds (i : Issue) (others : List Issue) (critical : Bool) :
    6 / 10 ≤ pathFactor exactDefaults (i :: others) critical ∧
      pathFactor exactDefaults (i :: others) critical ≤ 1 := by
  obtain ⟨-, -, hconditional, -⟩ := factors_usual
  rw [← hconditional]
  exact pathFactor_mem exactDefaults_discounting (List.cons_ne_nil i others) critical

lemma meanOf_issueFactor_bounds (i : Issue) (others : List Issue) :
    1 / 2 ≤ meanOf (issueFactor exactDefaults i) (others.map (issueFactor exactDefaults)) ∧
      meanOf (issueFactor exactDefaults i) (others.map (issueFactor exactDefaults)) ≤ 1 := by
  rw [← mean_cons, ← List.map_cons]
  exact mean_mem_Icc (by simp) (List.forall_mem_map.mpr fun j _ => issueFactor_bounds j)

lemma contextFactor_many_bounds (i : Issue) {others : List Issue} (hne : others ≠ []) :
    9 / 20 ≤ contextFactor exactDefaults (i :: others) ∧
      contextFactor exactDefaults (i :: others) ≤ 9 / 10 := by
  obtain ⟨hge, hle⟩ := meanOf_issueFactor_bounds i others
  rw [contextFactor_many i hne]
  constructor
  · linarith
  · linarith

lemma factors_le_append (critical : Bool) (i : Issue) {others more : List Issue} (hne : others ≠ [])
    (h : ∀ j ∈ i :: others, ∀ k ∈ more,
      issueFactor exactDefaults j ≤ issueFactor exactDefaults k ∧ pathDiscount j ≤ pathDiscount k) :
    contextFactor exactDefaults (i :: others) ≤
        contextFactor exactDefaults (i :: (others ++ more)) ∧
      pathFactor exactDefaults (i :: others) critical ≤
        pathFactor exactDefaults (i :: (others ++ more)) critical := by
  have hne' : others ++ more ≠ [] := by simp [hne]
  have happend : ∀ f : Issue → ℝ, (∀ j ∈ i :: others, ∀ k ∈ more, f j ≤ f k) →
      meanOf (f i) (others.map f) ≤ meanOf (f i) ((others ++ more).map f) := by
    intro f hf
    rw [List.map_append]
    refine meanOf_le_append (List.forall_mem_map.mpr fun k hk => ?_)
    rw [← List.map_cons]
    exact List.forall_mem_map.mpr fun j hj => hf j hj k hk
  have hcontext := happend (issueFactor exactDefaults) fun j hj k hk => (h j hj k hk).1
  have hpath := happend pathDiscount fun j hj k hk => (h j hj k hk).2
  rw [contextFactor_many i hne, contextFactor_many i hne', pathFactor_cons, pathFactor_cons]
  refine ⟨by gcongr, ?_⟩
  cases critical with
  | false => exact hpath
  | true => exact max_le_max_right _ hpath

lemma contextFactor_pos (i : Issue) (others : List Issue) :
    0 < contextFactor exactDefaults (i :: others) := by
  by_cases hne : others = []
  · subst hne
    rw [contextFactor_single]
    linarith [(issueFactor_bounds i).1]
  · linarith [(contextFactor_many_bounds i hne).1]

/-! ### The cost of a group -/

/-- How the cost of a group grows with its size. -/
noncomputable def countFactor (n : Nat) : ℝ := 1 + Scalar.log2 (n : ℝ)

lemma countFactor_eq (n : Nat) : countFactor n = 1 + Real.logb 2 n := rfl

lemma countFactor_one : countFactor 1 = 1 := by simp [countFactor_eq]

lemma countFactor_mono {m n : Nat} (hm : 0 < m) (h : m ≤ n) : countFactor m ≤ countFactor n := by
  have hm' : (0 : ℝ) < m := by exact_mod_cast hm
  have h' : (m : ℝ) ≤ n := by exact_mod_cast h
  rw [countFactor_eq, countFactor_eq]
  linarith [Real.logb_le_logb_of_le one_lt_two hm' h']

lemma countFactor_pos {n : Nat} (hn : 0 < n) : 0 < countFactor n := by
  have h := countFactor_mono Nat.one_pos hn
  rw [countFactor_one] at h
  linarith

/-- What a group costs, by its first issue and the others. -/
noncomputable def groupCost (critical : Bool) (first : Issue) (others : List Issue) : ℝ :=
  (groupDeduction exactDefaults first others critical).2

lemma groupCost_eq (critical : Bool) (first : Issue) (others : List Issue) :
    groupCost critical first others =
      exactDefaults.weight (first.severity.highest (others.map (·.severity))) *
        countFactor (first :: others).length *
          (contextFactor exactDefaults (first :: others) *
            pathFactor exactDefaults (first :: others) critical) := by
  simp only [groupCost, groupDeduction, countFactor_eq, ofInt_real, ofNat_real, log2_real,
    Int.cast_one]
  ring

lemma groupCost_nonneg (critical : Bool) (first : Issue) (others : List Issue) :
    0 ≤ groupCost critical first others := by
  have hweight := weight_pos (first.severity.highest (others.map (·.severity)))
  have hcount := countFactor_pos (Nat.succ_pos others.length)
  have hcontext := contextFactor_pos first others
  have hpath := (pathFactor_bounds first others critical).1
  rw [groupCost_eq, List.length_cons]
  positivity

lemma weight_highest_mono (first : Issue) (others more : List Issue) :
    exactDefaults.weight (first.severity.highest (others.map (·.severity))) ≤
      exactDefaults.weight (first.severity.highest ((others ++ more).map (·.severity))) := by
  refine weight_mono ((highest_spec first.severity ((others ++ more).map (·.severity))).2 _ ?_)
  have hmem := (highest_spec first.severity (others.map (·.severity))).1
  rw [List.map_append, ← List.cons_append]
  exact List.mem_append_left _ hmem

lemma weight_count_mono (first : Issue) (others more : List Issue) :
    exactDefaults.weight (first.severity.highest (others.map (·.severity))) *
        countFactor (first :: others).length ≤
      exactDefaults.weight (first.severity.highest ((others ++ more).map (·.severity))) *
        countFactor (first :: (others ++ more)).length := by
  have hlength : (first :: others).length ≤ (first :: (others ++ more)).length := by simp
  have hcount := countFactor_mono (Nat.succ_pos others.length) hlength
  exact mul_le_mul (weight_highest_mono first others more) hcount
    (countFactor_pos (Nat.succ_pos _)).le (weight_pos _).le

lemma groupCost_le_of_factors (critical : Bool) (first : Issue) (others more : List Issue)
    (h : countFactor (first :: others).length *
        (contextFactor exactDefaults (first :: others) *
          pathFactor exactDefaults (first :: others) critical) ≤
      countFactor (first :: (others ++ more)).length *
        (contextFactor exactDefaults (first :: (others ++ more)) *
          pathFactor exactDefaults (first :: (others ++ more)) critical)) :
    groupCost critical first others ≤ groupCost critical first (others ++ more) := by
  have hcontext := contextFactor_pos first others
  have hpath := (pathFactor_bounds first others critical).1
  have hcount : 0 < countFactor (first :: others).length :=
    countFactor_pos (Nat.succ_pos others.length)
  rw [groupCost_eq, groupCost_eq, mul_assoc, mul_assoc]
  exact mul_le_mul (weight_highest_mono first others more) h (by positivity) (weight_pos _).le

lemma logb_two_three : 3 / 2 ≤ Real.logb 2 3 := by
  have hnine : (3 : ℕ) ≤ Real.logb 2 (9 : ℕ) := logb_two_ge (by norm_num)
  have hsquare : Real.logb 2 (9 : ℕ) = 2 * Real.logb 2 3 := by
    rw [show ((9 : ℕ) : ℝ) = 3 ^ 2 by norm_num, Real.logb_pow]
    norm_num
  rw [hsquare] at hnine
  push_cast at hnine
  linarith

/-- The size of a group makes up for the greatest discounts on all of its issues but one. -/
lemma count_makes_up {k : Nat} (hk : 0 < k) :
    (1 + k : ℝ) ^ 2 ≤ countFactor (k + 1) * (9 / 10) * ((1 + 1 / 2 * k) * (1 + 6 / 10 * k)) := by
  have hcount : ∀ {c : ℝ}, c ≤ Real.logb 2 ((k + 1 : ℕ) : ℝ) →
      (1 + c) * (9 / 10) * ((1 + 1 / 2 * k) * (1 + 6 / 10 * k)) ≤
        countFactor (k + 1) * (9 / 10) * ((1 + 1 / 2 * k) * (1 + 6 / 10 * k)) := by
    intro c hc
    rw [countFactor_eq]
    gcongr
  rcases (by omega : k = 1 ∨ k = 2 ∨ (3 ≤ k ∧ k ≤ 6) ∨ 7 ≤ k) with rfl | rfl | ⟨hge, hle⟩ | hge
  · have h := hcount (logb_two_ge (by norm_num : 2 ^ 1 ≤ 1 + 1))
    norm_num at h ⊢
    linarith
  · have h := hcount (c := 3 / 2) (by exact_mod_cast logb_two_three)
    norm_num at h ⊢
    linarith
  · have h := hcount (logb_two_ge (by omega : 2 ^ 2 ≤ k + 1))
    have hge' : (3 : ℝ) ≤ k := by exact_mod_cast hge
    have hle' : (k : ℝ) ≤ 6 := by exact_mod_cast hle
    push_cast at h
    nlinarith
  · have h := hcount (logb_two_ge (by omega : 2 ^ 3 ≤ k + 1))
    have hge' : (7 : ℝ) ≤ k := by exact_mod_cast hge
    push_cast at h
    nlinarith

lemma share_le_meanOf {x low : ℝ} {xs : List ℝ} (hx : x ≤ 1) (hlow : 0 ≤ low)
    (h : ∀ y ∈ xs, low ≤ y) : x * ((1 + low * xs.length) / (1 + xs.length)) ≤ meanOf x xs := by
  have hmean : (x + low * xs.length) / (1 + xs.length) ≤ meanOf x xs := le_meanOf_cons h
  have hscaled : x * (low * xs.length) ≤ 1 * (low * xs.length) := by gcongr
  refine le_trans ?_ hmean
  rw [← mul_div_assoc]
  gcongr
  linarith

lemma share_le_pathFactor (critical : Bool) (i : Issue) (more : List Issue) :
    pathFactor exactDefaults [i] critical * ((1 + 6 / 10 * more.length) / (1 + more.length)) ≤
      pathFactor exactDefaults (i :: more) critical := by
  have hshare := share_le_meanOf (pathDiscount_bounds i).2 (by norm_num)
    (List.forall_mem_map.mpr fun j (_ : j ∈ more) => (pathDiscount_bounds j).1)
  rw [List.length_map] at hshare
  have hsingle : meanOf (pathDiscount i) ([].map pathDiscount) = pathDiscount i := by
    simp [meanOf]
  have hratio : (1 + 6 / 10 * more.length : ℝ) / (1 + more.length) ≤ 1 := by
    rw [div_le_one (by positivity)]
    linarith [(Nat.cast_nonneg more.length : (0 : ℝ) ≤ more.length)]
  rw [pathFactor_cons, pathFactor_cons, hsingle]
  cases critical with
  | false => exact hshare
  | true =>
    simp only [if_true]
    rw [max_mul_of_nonneg _ _ (by positivity)]
    refine max_le_max hshare ?_
    linarith

lemma discounts_made_up (critical : Bool) (i : Issue) {more : List Issue} (hne : more ≠ []) :
    issueFactor exactDefaults i * pathFactor exactDefaults [i] critical ≤
      countFactor (more.length + 1) *
        (contextFactor exactDefaults (i :: more) *
          pathFactor exactDefaults (i :: more) critical) := by
  have hk : 0 < more.length := List.length_pos_iff.mpr hne
  have hcontext := share_le_meanOf (issueFactor_bounds i).2 (by norm_num)
    (List.forall_mem_map.mpr fun j (_ : j ∈ more) => (issueFactor_bounds j).1)
  have hpath := share_le_pathFactor critical i more
  have hcount := count_makes_up hk
  have hissue := (issueFactor_bounds i).1
  have hsingle := (pathFactor_bounds i [] critical).1
  obtain ⟨hmean, -⟩ := meanOf_issueFactor_bounds i more
  rw [List.length_map] at hcontext
  rw [contextFactor_many i hne]
  set k := more.length
  set f := issueFactor exactDefaults i
  set p := pathFactor exactDefaults [i] critical
  have hpos : (0 : ℝ) < (1 + k) ^ 2 := by positivity
  have hgrowth := (one_le_div hpos).mpr hcount
  have hcount' : 0 < countFactor (k + 1) := countFactor_pos (Nat.succ_pos k)
  have hmean' : 0 ≤ meanOf f (more.map (issueFactor exactDefaults)) := by linarith
  calc f * p ≤ f * p * (countFactor (k + 1) * (9 / 10) *
        ((1 + 1 / 2 * k) * (1 + 6 / 10 * k)) / (1 + k) ^ 2) :=
        le_mul_of_one_le_right (by positivity) hgrowth
    _ = countFactor (k + 1) * (f * ((1 + 1 / 2 * k) / (1 + k)) * (9 / 10) *
        (p * ((1 + 6 / 10 * k) / (1 + k)))) := by field_simp
    _ ≤ countFactor (k + 1) * (meanOf f (more.map (issueFactor exactDefaults)) * (9 / 10) *
        pathFactor exactDefaults (i :: more) critical) := by gcongr

lemma groupCost_single_le (critical : Bool) (i : Issue) (more : List Issue) :
    groupCost critical i [] ≤ groupCost critical i more := by
  by_cases hne : more = []
  · rw [hne]
  · refine groupCost_le_of_factors critical i [] more ?_
    rw [List.nil_append, List.length_singleton, List.length_cons, countFactor_one, one_mul,
      contextFactor_single]
    exact discounts_made_up critical i hne

lemma groupCost_ge (critical : Bool) (first : Issue) (others more : List Issue) :
    3 / 10 * groupCost critical first others ≤ groupCost critical first (others ++ more) := by
  by_cases hne : others = []
  · subst hne
    have hsingle := groupCost_single_le critical first more
    have hnonneg := groupCost_nonneg critical first []
    rw [List.nil_append]
    linarith
  have hne' : others ++ more ≠ [] := by simp [hne]
  obtain ⟨-, hcontext⟩ := contextFactor_many_bounds first hne
  obtain ⟨hcontext', -⟩ := contextFactor_many_bounds first hne'
  obtain ⟨hpos, hpath⟩ := pathFactor_bounds first others critical
  obtain ⟨hpath', -⟩ := pathFactor_bounds first (others ++ more) critical
  have hsize := weight_count_mono first others more
  have hweight := weight_pos (first.severity.highest (others.map (·.severity)))
  have hcount : 0 < countFactor (first :: others).length :=
    countFactor_pos (Nat.succ_pos others.length)
  have hbefore : contextFactor exactDefaults (first :: others) *
      pathFactor exactDefaults (first :: others) critical ≤ 9 / 10 * 1 :=
    mul_le_mul hcontext hpath (by linarith) (by norm_num)
  have hafter : 9 / 20 * (6 / 10) ≤ contextFactor exactDefaults (first :: (others ++ more)) *
      pathFactor exactDefaults (first :: (others ++ more)) critical :=
    mul_le_mul hcontext' hpath' (by norm_num) (by linarith)
  rw [groupCost_eq, groupCost_eq]
  calc 3 / 10 * (exactDefaults.weight (first.severity.highest (others.map (·.severity))) *
        countFactor (first :: others).length * (contextFactor exactDefaults (first :: others) *
          pathFactor exactDefaults (first :: others) critical))
      ≤ 3 / 10 * (exactDefaults.weight (first.severity.highest (others.map (·.severity))) *
        countFactor (first :: others).length * (9 / 10 * 1)) := by gcongr
    _ = exactDefaults.weight (first.severity.highest (others.map (·.severity))) *
        countFactor (first :: others).length * (9 / 20 * (6 / 10)) := by ring
    _ ≤ _ := mul_le_mul hsize hafter (by norm_num) ((by positivity : (0 : ℝ) ≤ _).trans hsize)

end Proofs

end SourceGrade
