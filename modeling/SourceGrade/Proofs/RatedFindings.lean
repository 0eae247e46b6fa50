import SourceGrade.Analysis.Basic
import SourceGrade.Proofs.RealAmounts

/-!
# When findings can be rated

With thresholds of whole numbers and doubles, findings get a report unless one of three whole
numbers is out of range: the complexity of the unit, its remediation time and its development time.
-/

namespace SourceGrade.Proofs

/-- Why there is no report for a complexity and for times of remediation and development, if there
is none. -/
def refusal? (complexity remediation development : Int) : Option Overflow :=
  if (Binary.nearest complexity 1).isFinite = false then some .operand
  else if development ≠ 0 ∧
      (Binary.nearest (if development < 0 then -remediation else remediation)
        development.natAbs).isFinite = false then some .quotient
  else if Debt.unwritable ≤ remediation.natAbs ∨ Debt.unwritable ≤ development.natAbs then
    some .digits
  else none

/-- The minutes it takes to mend some issues. -/
def remediationOf (issues : List Issue) : Int :=
  issues.foldr (fun i minutes => i.remediationMinutes + minutes) 0

/-! ### Numbers in range -/

lemma inRange_isReal {a : Amount} (h : IsReal a) : inRange a = .ok () := by
  obtain ⟨x, rfl⟩ := h
  rfl

/-- A whole number times a double is out of range when the whole number is. -/
lemma inRange_whole_mul (n : Int) {a : Amount} (h : IsReal a) :
    inRange (Amount.whole n * a) =
      if (Binary.nearest n 1).isFinite then .ok () else .error (.overflow .operand) := by
  obtain ⟨x, rfl⟩ := h
  have hmul : Amount.whole n * Amount.real x =
      if (Binary.nearest n 1).isFinite then .real (Binary.nearest n 1 * x)
      else .tooLarge .operand := by
    change Amount.ofResult _ = _
    simp only [Amount.toFloat?]
    split <;> rfl
  rw [hmul]
  split <;> rfl

lemma eqInt_whole (n : Int) : Scalar.eqInt (Amount.whole n) 0 = decide (n = 0) := by
  change (some (compareOfLessAndEq n 0) == some .eq) = _
  unfold compareOfLessAndEq
  by_cases hneg : n < 0
  · have hne : n ≠ 0 := by omega
    simp [hneg, hne]
  · by_cases hzero : n = 0
    · simp [hzero]
    · simp [hneg, hzero]

lemma inRange_percent (total development : Int) :
    inRange (Debt.percent total (Amount.whole development)) =
      if development ≠ 0 ∧ (Binary.nearest (if development < 0 then -total else total)
          development.natAbs).isFinite = false then .error (.overflow .quotient)
      else .ok () := by
  unfold Debt.percent
  rw [eqInt_whole]
  by_cases hzero : development = 0
  · simp only [hzero, decide_true, if_true]
    exact inRange_isReal (IsReal.ofInt 0)
  · have hquotient : Amount.whole total / Amount.whole development =
        if (Binary.nearest (if development < 0 then -total else total)
          development.natAbs).isFinite then .real (Binary.nearest
            (if development < 0 then -total else total) development.natAbs)
        else .tooLarge .quotient := rfl
    simp only [hzero, decide_false, Bool.false_eq_true, if_false, ne_eq, not_false_eq_true,
      true_and]
    change inRange (Amount.whole total / Amount.whole development * Scalar.ofInt 100) = _
    rw [hquotient]
    cases (Binary.nearest (if development < 0 then -total else total)
      development.natAbs).isFinite with
    | true => rfl
    | false => rfl

lemma isWritable_some (n : Int) :
    Debt.isWritable (some n) =
      if Debt.unwritable ≤ n.natAbs then .error (.overflow .digits) else .ok () := by
  simp [Debt.isWritable]

/-! ### Comparisons with limits -/

lemma compare_whole (c : Comparison) (m n : Int) :
    Comparable.compare c (Setting.whole m) (Setting.whole n) =
      .ok ((Amount.order? (.whole m) (.whole n)).any c.holds) := by
  change Setting.compareWith c (Setting.whole m) (Setting.whole n) = _
  rw [Setting.compareWith]
  · rfl
  all_goals
    intros
    simp_all

variable (t : Thresholds Int Float)

lemma adjustedComplexity_typed (raw depth : Int) :
    ∃ factor, IsReal factor ∧
      adjustedComplexity t.typed raw depth = .ok (Amount.whole raw * factor) := by
  have hfactor : ∀ p : NestingPenalty, IsReal (p.factor t.typed) := by
    intro p
    cases p <;> exact ⟨_, rfl⟩
  obtain ⟨p, hp⟩ : ∃ p, NestingPenalty.ofDepth t.typed depth (raw < depth * 2) = .ok p := by
    have hsevere : Comparable.compare .ge (Comparable.whole depth) t.typed.nestingSevereDepth =
        .ok _ := compare_whole .ge depth t.nestingSevereDepth
    have hpenalty : Comparable.compare .ge (Comparable.whole depth) t.typed.nestingPenaltyDepth =
        .ok _ := compare_whole .ge depth t.nestingPenaltyDepth
    unfold NestingPenalty.ofDepth
    rw [hsevere, hpenalty]
    simp only [bind, Except.bind, pure, Except.pure]
    split
    · exact ⟨_, rfl⟩
    · split <;> exact ⟨_, rfl⟩
  refine ⟨p.factor t.typed, hfactor p, ?_⟩
  unfold adjustedComplexity
  rw [hp]
  rfl

/-! ### Ratings -/

lemma rateMaintainability_typed (m : Metrics Amount) (a : Aggregation Amount)
    (ha : IsReal a.deduction) : ∃ r, rateMaintainability t.typed m a = .ok r := by
  obtain ⟨x, hx⟩ : IsReal (Scalar.ofInt 100 - Scalar.ofNat m.penaltyPoints - a.deduction) :=
    IsReal.sub (IsReal.sub (IsReal.ofInt 100) (IsReal.ofNat _)) ha
  unfold rateMaintainability
  rw [hx]
  change ∃ r, (if Scalar.isFinite (Amount.real x) then _ else _) = _
  split <;> exact ⟨_, rfl⟩

lemma reliabilityWarning_typed (a : Aggregation Amount) (grade : Grade) :
    ∃ b, reliabilityWarning t.typed a grade = .ok b := by
  have hcritical : compared .ge (Comparable.whole a.criticalCount) t.typed.criticalWarningCount =
      .ok _ := congrArg (Except.mapError RatingError.incomparable)
        (compare_whole .ge a.criticalCount t.criticalWarningCount)
  have hmajor : compared .ge (Comparable.whole a.majorCount) t.typed.majorWarningCount =
      .ok _ := congrArg (Except.mapError RatingError.incomparable)
        (compare_whole .ge a.majorCount t.majorWarningCount)
  unfold reliabilityWarning
  rw [hcritical, hmajor]
  simp only [bind, Except.bind, pure, Except.pure]
  repeat' split
  all_goals exact ⟨_, rfl⟩

lemma rateReliability_typed (a : Aggregation Amount) (ha : IsReal a.deduction) (confirmed : Nat) :
    ∃ r, rateReliability t.typed a confirmed = .ok r := by
  obtain ⟨x, hx⟩ := IsReal.sub (IsReal.ofInt 100) ha
  unfold rateReliability
  rw [hx]
  change ∃ r, (if Scalar.isFinite (Amount.real x) then
    reliabilityRating t.typed a confirmed _ else _) = _
  split
  · obtain ⟨b, hb⟩ := reliabilityWarning_typed t a
      (reliabilityGrade t.typed (Scalar.clampScore (Amount.real x)) confirmed)
    unfold reliabilityRating
    dsimp only
    rw [hb]
    exact ⟨_, rfl⟩
  · exact ⟨_, rfl⟩

lemma development_typed (loc : Nat) :
    Debt.development t.typed (Scalar.whole loc : Amount) =
      Amount.whole (loc * t.developmentMinutesPerLine) := by
  have hlines : (if Scalar.gtInt (Amount.whole loc) 0 then Amount.whole loc
      else Amount.whole 0) = Amount.whole loc := by
    cases loc with
    | zero => split <;> rfl
    | succ n =>
      have hgt : Scalar.gtInt (Amount.whole (n + 1 : Nat)) 0 = true := by
        change (some (compareOfLessAndEq ((n + 1 : Nat) : Int) 0) == some .gt) = true
        have hneg : ¬((n + 1 : Nat) : Int) < 0 := by omega
        have hne : ((n + 1 : Nat) : Int) ≠ 0 := by omega
        rw [compareOfLessAndEq, if_neg hneg, if_neg hne]
        rfl
      rw [hgt]
      rfl
  unfold Debt.development
  change (if Scalar.gtInt (Amount.whole loc) 0 then Amount.whole loc else Amount.whole 0) *
    Amount.whole t.developmentMinutesPerLine = _
  rw [hlines]
  rfl

/-- The checks on the way to a report. -/
lemma rate_checks (language : Text) (cache : NormalizationCache) (f : Findings) :
    ∃ factor, IsReal factor ∧ ∃ result, f.rate t.typed language cache = do
      inRange (Amount.whole f.complexity.total * factor)
      inRange (Debt.percent (remediationOf f.issues)
        (Amount.whole (f.size.linesOfCode * t.developmentMinutesPerLine)))
      Debt.isWritable (some (remediationOf f.issues))
      Debt.isWritable (some (f.size.linesOfCode * t.developmentMinutesPerLine))
      return result := by
  obtain ⟨factor, hfactor, hadjusted⟩ :=
    adjustedComplexity_typed t f.complexity.total f.nesting.unit.depth
  have hadjusted : f.adjusted t.typed = .ok (Amount.whole f.complexity.total * factor) := hadjusted
  have hreliability := aggregate_isReal t Category.reliability cache f.issues
  have hmaintainability := aggregate_isReal t Category.maintainability
    (aggregate t.typed Category.reliability cache f.issues).2 f.issues
  obtain ⟨maintainability, hrm⟩ := rateMaintainability_typed t
    (f.metrics t.typed (Amount.whole f.complexity.total * factor)) _ hmaintainability
  obtain ⟨reliability, hrr⟩ := rateReliability_typed t _ hreliability
    (f.issues.countP (·.isConfirmedCritical))
  have hlines : (Scalar.whole (f.metrics t.typed
      (Amount.whole f.complexity.total * factor)).linesOfCode : Amount) =
        Scalar.whole f.size.linesOfCode := rfl
  have hok : ∀ {β γ : Type} (x : β) (g : β → Except RatingError γ), (Except.ok x >>= g) = g x :=
    fun _ _ => rfl
  refine ⟨factor, hfactor, ?_⟩
  unfold Findings.rate rateComplexity Debt.ofIssues
  simp only [hadjusted, Except.mapError, hok, inRange_isReal hreliability,
    inRange_isReal hmaintainability, hrm, hrr, hlines, development_typed, bind_assoc, pure_bind]
  exact ⟨_, rfl⟩

/-- What becomes of findings: a report, or the first reason against one. -/
theorem rate_typed (language : Text) (cache : NormalizationCache) (f : Findings) :
    match refusal? f.complexity.total (remediationOf f.issues)
      (f.size.linesOfCode * t.developmentMinutesPerLine) with
    | some reason => f.rate t.typed language cache = .error (.overflow reason)
    | none => ∃ result, f.rate t.typed language cache = .ok result := by
  obtain ⟨factor, hfactor, result, hrate⟩ := rate_checks t language cache f
  rw [inRange_whole_mul _ hfactor, inRange_percent, isWritable_some, isWritable_some] at hrate
  generalize f.rate t.typed language cache = outcome at hrate ⊢
  generalize hremediation : remediationOf f.issues = remediation at hrate ⊢
  generalize hdevelopment : f.size.linesOfCode * t.developmentMinutesPerLine = development
    at hrate ⊢
  unfold refusal?
  generalize Debt.unwritable = bound at hrate ⊢
  by_cases hcomplexity : (Binary.nearest f.complexity.total 1).isFinite = true
  · rw [hcomplexity] at hrate ⊢
    rw [if_neg (by decide : ¬true = false)]
    by_cases hratio : development ≠ 0 ∧ (Binary.nearest
        (if development < 0 then -remediation else remediation) development.natAbs).isFinite = false
    · rw [if_pos hratio] at hrate ⊢
      exact hrate
    · rw [if_neg hratio] at hrate ⊢
      by_cases hmend : bound ≤ remediation.natAbs
      · rw [if_pos hmend] at hrate
        rw [if_pos (.inl hmend)]
        exact hrate
      · rw [if_neg hmend] at hrate
        by_cases hwrite : bound ≤ development.natAbs
        · rw [if_pos hwrite] at hrate
          rw [if_pos (.inr hwrite)]
          exact hrate
        · rw [if_neg hwrite] at hrate
          rw [if_neg (not_or.mpr ⟨hmend, hwrite⟩)]
          exact ⟨result, hrate⟩
  · rw [Bool.not_eq_true] at hcomplexity
    rw [hcomplexity] at hrate ⊢
    exact hrate

end SourceGrade.Proofs
