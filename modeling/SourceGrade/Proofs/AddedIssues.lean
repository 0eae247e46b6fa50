import SourceGrade.Proofs.GroupCosts

/-!
# More issues

Issues that join a group may be discounted more than the issues in it, and then the group may cost
less than before. In exact arithmetic and with the usual thresholds, more issues cost at least three
tenths of what fewer did, and no less than those if no group of two or more loses more by discounts
than it gains by its size. So it is where no issue is discounted more than those that it joins.
-/

namespace SourceGrade

/-- The factors of a group for the code around its issues and for the way to them. -/
noncomputable def IssueGroup.discountFactor (g : IssueGroup ℝ) : ℝ :=
  contextFactor exactDefaults g.issues * pathFactor exactDefaults g.issues g.isCritical

namespace Proofs

/-! ### Counterparts -/

lemma sum_le_sum_of_counterparts {β κ : Type} {key : β → κ} {cost : β → ℝ} {c : ℝ}
    {before after : List β} (hbefore : (before.map key).Nodup)
    (hnonneg : ∀ h ∈ after, 0 ≤ cost h)
    (hcounterpart : ∀ g ∈ before, ∃ h ∈ after, key h = key g ∧ c * cost g ≤ cost h) :
    c * (before.map cost).sum ≤ (after.map cost).sum := by
  induction before generalizing after with
  | nil =>
    rw [List.map_nil, List.sum_nil, mul_zero]
    exact List.sum_nonneg (List.forall_mem_map.mpr hnonneg)
  | cons g before ih =>
    obtain ⟨hkey, hbefore⟩ := List.nodup_cons.mp hbefore
    obtain ⟨h, hh, hhkey, hhcost⟩ := hcounterpart g List.mem_cons_self
    obtain ⟨left, right, rfl⟩ := List.append_of_mem hh
    have hrest : c * (before.map cost).sum ≤ ((left ++ right).map cost).sum := by
      refine ih hbefore (fun h' hh' => hnonneg h' ?_) fun g' hg' => ?_
      · simp only [List.mem_append, List.mem_cons] at hh' ⊢
        tauto
      · obtain ⟨h', hh', hh'key, hh'cost⟩ := hcounterpart g' (List.mem_cons_of_mem _ hg')
        have hne : h' ≠ h := by
          rintro rfl
          exact hkey (List.mem_map.mpr ⟨g', hg', hh'key.symm.trans hhkey⟩)
        refine ⟨h', ?_, hh'key, hh'cost⟩
        simp only [List.mem_append, List.mem_cons] at hh' ⊢
        tauto
    simp only [List.map_cons, List.map_append, List.sum_cons, List.sum_append] at hrest ⊢
    linarith

/-! ### Aggregations -/

lemma discountFactor_nonneg (g : IssueGroup ℝ) : 0 ≤ g.discountFactor := by
  have hcontext := contextFactor_pos g.first g.others
  have hpath := (pathFactor_bounds g.first g.others g.isCritical).1
  exact mul_nonneg hcontext.le ((by norm_num : (0 : ℝ) ≤ 6 / 10).trans hpath)

section

variable (family : List Category) {cache cache' : NormalizationCache}

lemma rawDeduction_eq (issues : List Issue) :
    (aggregate exactDefaults family cache issues).1.rawDeduction =
      ((aggregate exactDefaults family cache issues).1.groups.map (·.deduction)).sum :=
  sum_real _

lemma deduction_eq {issues : List Issue} {g : IssueGroup ℝ}
    (hg : g ∈ (aggregate exactDefaults family cache issues).1.groups) :
    g.deduction = groupCost g.isCritical g.first g.others := by
  obtain ⟨⟨key, first, others⟩, -, rfl⟩ := exists_bucket exactDefaults family issues hg
  rfl

lemma mem_of_group (hcache : cache.Faithful) {issues : List Issue} {g : IssueGroup ℝ} {i : Issue}
    (hg : g ∈ (aggregate exactDefaults family cache issues).1.groups) (hi : i ∈ g.issues) :
    i ∈ inFamily family issues ∧ i.groupKey = g.key := by
  rw [group_issues exactDefaults family hcache issues hg] at hi
  obtain ⟨hmem, hkey⟩ := List.mem_filter.mp hi
  exact ⟨hmem, by simpa using hkey⟩

section

variable (hcache : cache.Faithful) (hcache' : cache'.Faithful) {xs ys : List Issue}

include hcache hcache'

lemma exists_counterpart {g : IssueGroup ℝ}
    (hg : g ∈ (aggregate exactDefaults family cache xs).1.groups) :
    ∃ h ∈ (aggregate exactDefaults family cache' (xs ++ ys)).1.groups, h.key = g.key := by
  obtain ⟨hmem, hkey⟩ := mem_of_group family hcache hg (List.mem_cons_self : g.first ∈ g.issues)
  have hmem' : g.first ∈ inFamily family (xs ++ ys) := by
    rw [inFamily, List.filter_append]
    exact List.mem_append_left _ hmem
  obtain ⟨h, hh, hhkey⟩ := mem_group_keys exactDefaults family hcache' (xs ++ ys) hmem'
  exact ⟨h, hh, hhkey.trans hkey⟩

lemma group_extends {g h : IssueGroup ℝ}
    (hg : g ∈ (aggregate exactDefaults family cache xs).1.groups)
    (hh : h ∈ (aggregate exactDefaults family cache' (xs ++ ys)).1.groups) (hkey : h.key = g.key) :
    h.isCritical = g.isCritical ∧ h.first = g.first ∧ ∃ more, h.others = g.others ++ more ∧
      (∀ i ∈ g.issues, i ∈ xs ∧ i.groupKey = g.key) ∧ ∀ j ∈ more, j ∈ ys ∧ j.groupKey = g.key := by
  have hissues := group_issues exactDefaults family hcache xs hg
  have hissues' := group_issues exactDefaults family hcache' (xs ++ ys) hh
  rw [inFamily, List.filter_append, List.filter_append, hkey] at hissues'
  change h.issues = (inFamily family xs).filter (·.groupKey = g.key) ++ _ at hissues'
  rw [← hissues] at hissues'
  obtain ⟨hfirst, hothers⟩ := List.cons.inj hissues'
  refine ⟨congrArg GroupKey.isCritical hkey, hfirst, _, hothers, fun i hi => ?_, fun j hj => ?_⟩
  · obtain ⟨hmem, hsame⟩ := mem_of_group family hcache hg hi
    exact ⟨(List.mem_filter.mp hmem).1, hsame⟩
  · obtain ⟨hmem, hsame⟩ := List.mem_filter.mp hj
    exact ⟨(List.mem_filter.mp hmem).1, by simpa using hsame⟩

lemma rawDeduction_ge {share : ℝ}
    (h : ∀ g ∈ (aggregate exactDefaults family cache xs).1.groups,
      ∀ h ∈ (aggregate exactDefaults family cache' (xs ++ ys)).1.groups, h.key = g.key →
        share * g.deduction ≤ h.deduction) :
    share * (aggregate exactDefaults family cache xs).1.rawDeduction ≤
      (aggregate exactDefaults family cache' (xs ++ ys)).1.rawDeduction := by
  rw [rawDeduction_eq, rawDeduction_eq]
  refine sum_le_sum_of_counterparts (group_keys_nodup exactDefaults family hcache xs) ?_ ?_
  · intro g hg
    rw [deduction_eq family hg]
    exact groupCost_nonneg _ _ _
  · intro g hg
    obtain ⟨g', hg', hkey⟩ := exists_counterpart family hcache hcache' hg
    exact ⟨g', hg', hkey, h g hg g' hg' hkey⟩

lemma rawDeduction_ge_tenths :
    3 / 10 * (aggregate exactDefaults family cache xs).1.rawDeduction ≤
      (aggregate exactDefaults family cache' (xs ++ ys)).1.rawDeduction := by
  refine rawDeduction_ge family hcache hcache' fun g hg h hh hkey => ?_
  obtain ⟨hcritical, hfirst, more, hothers, -⟩ := group_extends family hcache hcache' hg hh hkey
  rw [deduction_eq family hg, deduction_eq family hh, hcritical, hfirst, hothers]
  exact groupCost_ge g.isCritical g.first g.others more

lemma rawDeduction_le_of_factors
    (hfactors : ∀ g ∈ (aggregate exactDefaults family cache xs).1.groups,
      ∀ h ∈ (aggregate exactDefaults family cache' (xs ++ ys)).1.groups, h.key = g.key →
        2 ≤ g.count →
          countFactor g.count * g.discountFactor ≤ countFactor h.count * h.discountFactor) :
    (aggregate exactDefaults family cache xs).1.rawDeduction ≤
      (aggregate exactDefaults family cache' (xs ++ ys)).1.rawDeduction := by
  rw [← one_mul (aggregate exactDefaults family cache xs).1.rawDeduction]
  refine rawDeduction_ge family hcache hcache' fun g hg h hh hkey => ?_
  obtain ⟨hcritical, hfirst, more, hothers, -⟩ := group_extends family hcache hcache' hg hh hkey
  rw [one_mul, deduction_eq family hg, deduction_eq family hh, hcritical, hfirst, hothers]
  by_cases hsingle : g.others = []
  · rw [hsingle]
    exact groupCost_single_le g.isCritical g.first more
  · have hcount : 2 ≤ g.count := Nat.succ_le_succ (List.length_pos_iff.mpr hsingle)
    have hfactor := hfactors g hg h hh hkey hcount
    unfold IssueGroup.discountFactor IssueGroup.count IssueGroup.issues at hfactor
    rw [hfirst, hothers, hcritical] at hfactor
    exact groupCost_le_of_factors g.isCritical g.first g.others more hfactor

lemma rawDeduction_le_of_discounts
    (hdiscounts : ∀ g ∈ (aggregate exactDefaults family cache xs).1.groups,
      ∀ h ∈ (aggregate exactDefaults family cache' (xs ++ ys)).1.groups, h.key = g.key →
        2 ≤ g.count → g.discountFactor ≤ h.discountFactor) :
    (aggregate exactDefaults family cache xs).1.rawDeduction ≤
      (aggregate exactDefaults family cache' (xs ++ ys)).1.rawDeduction := by
  refine rawDeduction_le_of_factors family hcache hcache' fun g hg h hh hkey hcount => ?_
  obtain ⟨-, -, more, hothers, -⟩ := group_extends family hcache hcache' hg hh hkey
  have hlonger : g.count ≤ h.count := by
    simp [IssueGroup.count, IssueGroup.issues, hothers]
  exact mul_le_mul (countFactor_mono (by omega) hlonger) (hdiscounts g hg h hh hkey hcount)
    (discountFactor_nonneg g) (countFactor_pos (by omega)).le

lemma rawDeduction_le_of_members (hmembers : ∀ i ∈ xs, ∀ j ∈ ys, i.groupKey = j.groupKey →
      issueFactor exactDefaults i ≤ issueFactor exactDefaults j ∧
        pathDiscount i ≤ pathDiscount j) :
    (aggregate exactDefaults family cache xs).1.rawDeduction ≤
      (aggregate exactDefaults family cache' (xs ++ ys)).1.rawDeduction := by
  refine rawDeduction_le_of_discounts family hcache hcache' fun g hg h hh hkey hcount => ?_
  obtain ⟨hcritical, hfirst, more, hothers, hold, hnew⟩ :=
    group_extends family hcache hcache' hg hh hkey
  have hne : g.others ≠ [] := List.length_pos_iff.mp (Nat.le_of_succ_le_succ hcount)
  obtain ⟨hcontext, hpath⟩ := factors_le_append g.isCritical g.first hne fun i hi j hj =>
    hmembers i (hold i hi).1 j (hnew j hj).1 ((hold i hi).2.trans (hnew j hj).2.symm)
  have hnonneg := (pathFactor_bounds g.first g.others g.isCritical).1
  have hpos := contextFactor_pos g.first (g.others ++ more)
  unfold IssueGroup.discountFactor IssueGroup.issues
  rw [hcritical, hfirst, hothers]
  exact mul_le_mul hcontext hpath (by linarith) hpos.le

end

end

/-! ### One group -/

lemma groups_of_same {family : List Category} {first : Issue} {others : List Issue}
    (hfamily : ∀ i ∈ first :: others, family.contains i.category = true)
    (hkey : ∀ i ∈ first :: others, i.groupKey = first.groupKey) :
    ∃ g, (aggregate exactDefaults family .empty (first :: others)).1.groups = [g] ∧
      g.first = first ∧ g.others = others ∧ g.isCritical = first.severity.isCritical := by
  have hempty := NormalizationCache.faithful_empty
  have hall : inFamily family (first :: others) = first :: others := List.filter_eq_self.mpr hfamily
  have hkeys : ∀ g ∈ (aggregate exactDefaults family .empty (first :: others)).1.groups,
      g.key = first.groupKey := by
    intro g hg
    obtain ⟨hmem, hsame⟩ := mem_of_group family hempty hg (List.mem_cons_self : g.first ∈ g.issues)
    rw [hall] at hmem
    rw [← hsame, hkey _ hmem]
  have hmem : first ∈ inFamily family (first :: others) := by
    rw [hall]
    exact List.mem_cons_self
  obtain ⟨g, hg, -⟩ := mem_group_keys exactDefaults family hempty (first :: others) hmem
  have hissues := group_issues exactDefaults family hempty _ hg
  have hnodup := group_keys_nodup exactDefaults family hempty (first :: others)
  have hgkey := hkeys g hg
  rw [hall, hgkey, List.filter_eq_self.mpr (by simpa using hkey)] at hissues
  obtain ⟨hfirst, hothers⟩ := List.cons.inj hissues
  refine ⟨g, ?_, hfirst, hothers, congrArg GroupKey.isCritical hgkey⟩
  cases hgroups : (aggregate exactDefaults family .empty (first :: others)).1.groups with
  | nil => rw [hgroups] at hg; cases hg
  | cons a rest =>
    cases rest with
    | nil =>
      rw [hgroups] at hg
      rw [List.mem_singleton.mp hg]
    | cons b rest =>
      rw [hgroups] at hnodup hkeys
      have hab : a.key = b.key := (hkeys a (by simp)).trans (hkeys b (by simp)).symm
      simp [hab] at hnodup

lemma rawDeduction_of_same {family : List Category} {first : Issue} {others : List Issue}
    (hfamily : ∀ i ∈ first :: others, family.contains i.category = true)
    (hkey : ∀ i ∈ first :: others, i.groupKey = first.groupKey) :
    (aggregate exactDefaults family .empty (first :: others)).1.rawDeduction =
      groupCost first.severity.isCritical first others := by
  obtain ⟨g, hgroups, hfirst, hothers, hcritical⟩ := groups_of_same hfamily hkey
  have hg : g ∈ (aggregate exactDefaults family .empty (first :: others)).1.groups := by
    rw [hgroups]
    exact List.mem_singleton.mpr rfl
  rw [rawDeduction_eq, hgroups, List.map_singleton, List.sum_singleton, deduction_eq family hg,
    hfirst, hothers, hcritical]

/-! ### Discounted company -/

/-- A division outside tests and conditions. -/
def plainDivision : Issue := divisionBy "count" .major

/-- A division in a test, on a conditional path. -/
def testedDivision : Issue :=
  { divisionBy "size" .major with context := ["test", "conditional"] }

lemma plainDivision_discounts :
    issueFactor exactDefaults plainDivision = 1 ∧ pathDiscount plainDivision = 1 := by
  constructor
  · simp [issueFactor, plainDivision, divisionBy]
  · simp [pathDiscount, plainDivision, divisionBy]

lemma testedDivision_discounts :
    issueFactor exactDefaults testedDivision = 1 / 2 ∧ pathDiscount testedDivision = 6 / 10 := by
  have htest : exactDefaults.tagFactor? "test" = some (1 / 2) := by
    rw [Thresholds.tagFactor?, if_pos rfl]
    norm_num [exactDefaults, Thresholds.defaults, Thresholds.defaultsOf]
  have hconditional : exactDefaults.tagFactor? "conditional" = none := by
    rw [Thresholds.tagFactor?, if_neg (by decide), if_neg (by decide), if_neg (by decide)]
  constructor
  · have htags : testedDivision.context.filterMap exactDefaults.tagFactor? = [1 / 2] := by
      change ([("test" : Text), ("conditional" : Text)].filterMap exactDefaults.tagFactor?) = _
      rw [List.filterMap_cons_some htest, List.filterMap_cons_none hconditional,
        List.filterMap_nil]
    rw [issueFactor, htags]
    norm_num
  · rw [pathDiscount, if_pos (by decide)]
    norm_num [exactDefaults, Thresholds.defaults, Thresholds.defaultsOf]

/-- Some plain divisions, and then some tested ones. -/
def divisions (plain tested : Nat) : List Issue :=
  List.replicate plain plainDivision ++ List.replicate tested testedDivision

lemma mem_divisions {plain tested : Nat} {i : Issue} (h : i ∈ divisions plain tested) :
    i = plainDivision ∨ i = testedDivision := by
  obtain h | h := List.mem_append.mp h
  · exact .inl (List.eq_of_mem_replicate h)
  · exact .inr (List.eq_of_mem_replicate h)

/-- The share of their full cost that divisions keep, for a number of them and for a discount. -/
noncomputable def shareOf (plain tested : Nat) (discount : ℝ) : ℝ :=
  (plain + discount * tested) / (plain + tested)

lemma meanOf_divisions {f : Issue → ℝ} {discount : ℝ} (hplain : f plainDivision = 1)
    (htested : f testedDivision = discount) (plain tested : Nat) :
    meanOf (f plainDivision) ((divisions plain tested).map f) =
      shareOf (plain + 1) tested discount := by
  simp only [meanOf, shareOf, divisions, List.map_append, List.map_replicate, List.sum_append,
    List.sum_replicate, List.length_append, List.length_replicate, hplain, htested, nsmul_eq_mul]
  push_cast
  congr 1
  · ring
  · ring

lemma severity_divisions (plain tested : Nat) :
    plainDivision.severity.highest ((divisions plain tested).map (·.severity)) = .major := by
  have hmem := (highest_spec plainDivision.severity ((divisions plain tested).map (·.severity))).1
  rw [← List.map_cons] at hmem
  obtain ⟨i, hi, hseverity⟩ := List.mem_map.mp hmem
  rw [← hseverity]
  obtain rfl | hi := List.mem_cons.mp hi
  · rfl
  · obtain rfl | rfl := mem_divisions hi
    · rfl
    · rfl

lemma divisions_cons (plain tested : Nat) :
    divisions (plain + 1) tested = plainDivision :: divisions plain tested := rfl

lemma divisions_ne_nil {plain tested : Nat} (hmany : 0 < plain + tested) :
    divisions plain tested ≠ [] := by
  intro h
  have hlength := congrArg List.length h
  simp [divisions] at hlength
  omega

lemma same_divisions (plain tested : Nat) :
    (∀ i ∈ plainDivision :: divisions plain tested,
      Category.reliability.contains i.category = true) ∧
      ∀ i ∈ plainDivision :: divisions plain tested, i.groupKey = plainDivision.groupKey := by
  have hmem : ∀ i ∈ plainDivision :: divisions plain tested,
      i = plainDivision ∨ i = testedDivision := by
    intro i hi
    rw [← divisions_cons] at hi
    exact mem_divisions hi
  constructor
  · intro i hi
    obtain rfl | rfl := hmem i hi
    · decide
    · decide
  · intro i hi
    obtain rfl | rfl := hmem i hi
    · rfl
    · decide +kernel

lemma rawDeduction_divisions (plain tested : Nat) (hmany : 0 < plain + tested) :
    (aggregate exactDefaults Category.reliability .empty
        (divisions (plain + 1) tested)).1.rawDeduction =
      8 * countFactor (plain + 1 + tested) *
        (shareOf (plain + 1) tested (1 / 2) * (9 / 10) * shareOf (plain + 1) tested (6 / 10)) := by
  have hne := divisions_ne_nil hmany
  obtain ⟨hfamily, hkey⟩ := same_divisions plain tested
  have hweight : exactDefaults.weight .major = 8 := by
    norm_num [exactDefaults, Thresholds.weight, Thresholds.defaults, Thresholds.defaultsOf]
  have hlength : (plainDivision :: divisions plain tested).length = plain + 1 + tested := by
    simp [divisions]
    omega
  obtain ⟨hplain, hpath⟩ := plainDivision_discounts
  obtain ⟨htested, hpath'⟩ := testedDivision_discounts
  rw [divisions_cons, rawDeduction_of_same hfamily hkey, groupCost_eq, severity_divisions, hweight,
    hlength, contextFactor_many _ hne, pathFactor_cons, meanOf_divisions hplain htested,
    meanOf_divisions hpath hpath']
  rfl

lemma countFactor_two_pow (k : Nat) : countFactor (2 ^ k) = 1 + k := by
  rw [countFactor_eq]
  push_cast
  rw [Real.logb_pow, Real.logb_self_eq_one one_lt_two, mul_one]

lemma shareOf_two_pow (a b : Nat) (discount : ℝ) :
    shareOf (2 ^ a) (2 ^ a * (2 ^ b - 1)) discount = discount + (1 - discount) * (1 / 2) ^ b := by
  unfold shareOf
  rw [one_div_pow]
  push_cast [Nat.one_le_two_pow]
  field_simp
  ring

/-- Plain divisions, `2 ^ a` of them, before and after so many tested ones join them that there are
`2 ^ b` times as many. -/
lemma rawDeduction_two_pow {a : Nat} (ha : 0 < a) (b : Nat) :
    (aggregate exactDefaults Category.reliability .empty
        (divisions (2 ^ a) (2 ^ a * (2 ^ b - 1)))).1.rawDeduction =
      8 * (1 + a + b) * ((1 / 2 + 1 / 2 * (1 / 2) ^ b) * (9 / 10) *
        (6 / 10 + 4 / 10 * (1 / 2) ^ b)) := by
  have htwo : 2 ≤ 2 ^ a := Nat.le_self_pow ha.ne' 2
  obtain ⟨n, hn⟩ : ∃ n, 2 ^ a = n + 1 := ⟨2 ^ a - 1, by omega⟩
  have htotal : 2 ^ a + 2 ^ a * (2 ^ b - 1) = 2 ^ (a + b) := by
    rw [Nat.mul_sub, mul_one, pow_add]
    exact Nat.add_sub_of_le (Nat.le_mul_of_pos_right _ (by positivity))
  have hraw := rawDeduction_divisions n (2 ^ a * (2 ^ b - 1)) (by omega)
  rw [← hn, htotal, countFactor_two_pow, shareOf_two_pow, shareOf_two_pow] at hraw
  rw [hraw]
  push_cast
  ring

lemma divisions_append (plain tested : Nat) :
    divisions plain 0 ++ divisions 0 tested = divisions plain tested := by
  simp [divisions]

/-- More than three tenths of the cost of some issues may be lost to further ones. -/
lemma exists_cheaper {share : ℝ} (h : 3 / 10 < share) : ∃ xs ys : List Issue,
    (aggregate exactDefaults Category.reliability .empty (xs ++ ys)).1.rawDeduction <
      share * (aggregate exactDefaults Category.reliability .empty xs).1.rawDeduction := by
  -- so many tested divisions that the discounts come near to three tenths, and then so many of both
  -- that their number does not matter
  obtain ⟨b, hb⟩ := exists_pow_lt_of_lt_one (show (0 : ℝ) < (share - 3 / 10) / 2 by linarith)
    (show (1 / 2 : ℝ) < 1 by norm_num)
  obtain ⟨a, ha⟩ := exists_nat_gt (share * b / ((share - 3 / 10) / 2))
  refine ⟨divisions (2 ^ (a + 1)) 0, divisions 0 (2 ^ (a + 1) * (2 ^ b - 1)), ?_⟩
  have hbefore := rawDeduction_two_pow (Nat.succ_pos a) 0
  have hafter := rawDeduction_two_pow (Nat.succ_pos a) b
  simp only [pow_zero, Nat.sub_self, mul_zero] at hbefore
  rw [divisions_append, hafter, hbefore]
  rw [div_lt_iff₀ (by linarith)] at ha
  set x : ℝ := (1 / 2) ^ b
  have hx : 0 ≤ x := by positivity
  have hx' : x ≤ 1 := pow_le_one₀ (by norm_num) (by norm_num)
  have hdiscount : (1 / 2 + 1 / 2 * x) * (6 / 10 + 4 / 10 * x) ≤ 3 / 10 + 7 / 10 * x := by nlinarith
  have hcount : (0 : ℝ) ≤ b := Nat.cast_nonneg b
  have hgrowth : (2 + a + b) * (3 / 10 + 7 / 10 * x) < share * (2 + a) := by nlinarith
  push_cast
  nlinarith

/-! ### Main results -/

/-- Two tested divisions that join two plain ones make them cost less than before. -/
theorem aggregate_append_cheaper :
    let plain := [plainDivision, plainDivision]
    let tested := [testedDivision, testedDivision]
    (aggregate exactDefaults Category.reliability .empty plain).1.rawDeduction = 72 / 5 ∧
      (aggregate exactDefaults Category.reliability .empty (plain ++ tested)).1.rawDeduction =
        324 / 25 ∧
      ¬(aggregate exactDefaults Category.reliability .empty plain).1.rawDeduction ≤
        (aggregate exactDefaults Category.reliability .empty (plain ++ tested)).1.rawDeduction := by
  intro plain tested
  have hbefore : (aggregate exactDefaults Category.reliability .empty plain).1.rawDeduction =
      72 / 5 := by
    rw [show plain = divisions (2 ^ 1) (2 ^ 1 * (2 ^ 0 - 1)) from rfl,
      rawDeduction_two_pow Nat.one_pos 0]
    norm_num
  have hafter : (aggregate exactDefaults Category.reliability .empty
      (plain ++ tested)).1.rawDeduction = 324 / 25 := by
    rw [show plain ++ tested = divisions (2 ^ 1) (2 ^ 1 * (2 ^ 1 - 1)) from rfl,
      rawDeduction_two_pow Nat.one_pos 1]
    norm_num
  refine ⟨hbefore, hafter, ?_⟩
  rw [hbefore, hafter]
  norm_num

/-- More issues cost at least three tenths of what fewer of them cost, and no greater share is sure.
They cost no less than those unless a group that had two issues or more loses more by discounts than
it gains by its size, and this needs an issue that is discounted more than one that it joins. -/
theorem aggregate_append_rawDeduction :
    (∀ (family : List Category) (cache cache' : NormalizationCache), cache.Faithful →
      cache'.Faithful → ∀ xs ys : List Issue,
        let before := (aggregate exactDefaults family cache xs).1
        let after := (aggregate exactDefaults family cache' (xs ++ ys)).1
        3 / 10 * before.rawDeduction ≤ after.rawDeduction ∧
          ((∀ g ∈ before.groups, ∀ h ∈ after.groups, h.key = g.key → 2 ≤ g.count →
              countFactor g.count * g.discountFactor ≤ countFactor h.count * h.discountFactor) →
            before.rawDeduction ≤ after.rawDeduction) ∧
          ((∀ i ∈ xs, ∀ j ∈ ys, i.groupKey = j.groupKey →
              issueFactor exactDefaults i ≤ issueFactor exactDefaults j ∧
                pathDiscount i ≤ pathDiscount j) →
            before.rawDeduction ≤ after.rawDeduction)) ∧
      ∀ share : ℝ, 3 / 10 < share → ∃ xs ys : List Issue,
        (aggregate exactDefaults Category.reliability .empty (xs ++ ys)).1.rawDeduction <
          share * (aggregate exactDefaults Category.reliability .empty xs).1.rawDeduction := by
  refine ⟨?_, fun share => exists_cheaper⟩
  intro family cache cache' hcache hcache' xs ys before after
  exact ⟨rawDeduction_ge_tenths family hcache hcache',
    rawDeduction_le_of_factors family hcache hcache',
    rawDeduction_le_of_members family hcache hcache'⟩

theorem aggregate_append_rawDeduction_plain :
    NormalizationCache.empty.Faithful ∧
      (aggregate exactDefaults Category.reliability .empty (divisions 2 0)).1.rawDeduction ≤
        (aggregate exactDefaults Category.reliability .empty
          (divisions 2 0 ++ divisions 1 0)).1.rawDeduction := by
  have hempty := NormalizationCache.faithful_empty
  have hplain : ∀ {n : Nat} {i : Issue}, i ∈ divisions n 0 → i = plainDivision := by
    intro n i hi
    exact List.eq_of_mem_replicate (by simpa [divisions] using hi)
  refine ⟨hempty, ?_⟩
  refine (aggregate_append_rawDeduction.1 Category.reliability _ _ hempty hempty (divisions 2 0)
    (divisions 1 0)).2.2 fun i hi j hj _ => ?_
  rw [hplain hi, hplain hj]
  exact ⟨le_rfl, le_rfl⟩

end Proofs

end SourceGrade
