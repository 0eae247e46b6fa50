import SourceGrade.Proofs.FoundIssues
import SourceGrade.Proofs.RatedReport

/-!
# The critical override

Each check writes its own rules on its issues. So an unchecked division, and a dereference on a
crash-prone path, are known by the rule on them, and the rating of reliability meets them as
confirmed critical issues, whatever the score is.
-/

namespace SourceGrade

namespace HazardRule

/-- What a rule for hazards writes on its issues. -/
def name : HazardRule → Text
  | division => Rule.division
  | indexing => Rule.index
  | dereference => Rule.dereference
  | riskyCalls => Rule.riskyCall
  | userInput => Rule.input
  | resources => Rule.resource
  | nesting => Rule.nesting
  | deadCode => Rule.deadCode

end HazardRule

namespace SmellCheck

/-- What a check for smells writes on its issues. -/
def names : SmellCheck → List Text
  | functionSize => [Rule.longFunction, Rule.parameters, Rule.complexFunction]
  | magicNumbers => [Rule.magicNumber]
  | debugOutput => [Rule.debugOutput]
  | todoComments => [Rule.todo]
  | shortNames => [Rule.shortName]
  | mixedNaming => [Rule.mixedNaming]
  | emptyCatch => [Rule.emptyCatch]
  | missingDocs => [Rule.missingDocs]
  | duplicates => [Rule.duplicate]

end SmellCheck

/-- A division outside error handling, or a critical dereference. -/
def Issue.IsUnguarded (i : Issue) : Prop :=
  i.rule = Rule.division ∧ ("try" : Text) ∉ i.context ∨
    i.rule = Rule.dereference ∧ i.severity = .critical

namespace Proofs

/-! ### The rules of hazards -/

section

variable {i : Inspection}

lemma division_rule {issues : List Issue} (h : Division.issues i = .ok issues) :
    ∀ issue ∈ issues, issue.rule = Rule.division ∧ issue.severity = .critical := by
  obtain ⟨findings, -, rfl⟩ := except_map_eq_ok h
  exact List.forall_mem_map.mpr fun _ _ => ⟨rfl, rfl⟩

lemma mem_dereference {issue : Issue} (h : issue ∈ Dereference.issues i) :
    ∃ name l, issue = Dereference.issueOf i name l := by
  unfold Dereference.issues at h
  split at h
  · cases h
  · obtain ⟨s, -, h⟩ := List.mem_flatMap.mp h
    obtain ⟨use, -, rfl⟩ := List.mem_map.mp h
    exact ⟨use.1, use.2, rfl⟩

lemma riskyCall_rule (ls : List SourceLine) :
    ∀ issue ∈ RiskyCall.issuesFrom i ls, issue.rule = Rule.riskyCall := by
  induction ls with
  | nil => exact List.forall_mem_nil _
  | cons l ls ih =>
    rw [RiskyCall.issuesFrom]
    refine List.forall_mem_append.mpr ⟨?_, ih⟩
    split
    · exact List.forall_mem_nil _
    · split
      · exact List.forall_mem_nil _
      · exact List.forall_mem_singleton.mpr rfl

lemma deadCode_rule (ls : List SourceLine) :
    ∀ issue ∈ DeadCode.issuesFrom i ls, issue.rule = Rule.deadCode := by
  induction ls with
  | nil => exact List.forall_mem_nil _
  | cons l ls ih =>
    cases ls with
    | nil => exact List.forall_mem_nil _
    | cons next ls =>
      rw [DeadCode.issuesFrom]
      refine List.forall_mem_append.mpr ⟨fun issue h => ?_, ih⟩
      obtain ⟨word, -, rfl⟩ := Option.map_eq_some_iff.mp (Option.mem_toList.mp h)
      rfl

variable {ι : Type} [Comparable ι] {limits : DeepNesting.Limits ι}

lemma hazard_rule {n : Nesting} (rule : HazardRule) {issues : List Issue}
    (h : rule.issues i n limits = .ok issues) : ∀ issue ∈ issues, issue.rule = rule.name := by
  intro issue hissue
  cases rule with
  | division => exact (division_rule h issue hissue).1
  | indexing =>
    obtain rfl := Except.ok.inj h
    obtain ⟨access, -, rfl⟩ := List.mem_map.mp hissue
    rfl
  | dereference =>
    obtain rfl := Except.ok.inj h
    obtain ⟨name, l, rfl⟩ := mem_dereference hissue
    rfl
  | riskyCalls =>
    obtain rfl := Except.ok.inj h
    exact riskyCall_rule _ issue hissue
  | userInput =>
    obtain rfl := Except.ok.inj h
    unfold UserInput.issues at hissue
    split at hissue
    · cases hissue
    · obtain ⟨l, -, rfl⟩ := List.mem_map.mp hissue
      rfl
  | resources =>
    obtain rfl := Except.ok.inj h
    obtain ⟨l, -, hissue⟩ := List.mem_filterMap.mp hissue
    obtain ⟨name, -, rfl⟩ := Option.map_eq_some_iff.mp hissue
    rfl
  | nesting =>
    obtain ⟨found, -, rfl⟩ := except_map_eq_ok h
    obtain ⟨finding, -, rfl⟩ := List.mem_map.mp hissue
    rfl
  | deadCode =>
    obtain rfl := Except.ok.inj h
    exact deadCode_rule _ issue hissue

lemma mem_issuesOf {n : Nesting} {rules : List HazardRule} {issues : List Issue}
    (h : HazardRule.issuesOf i n limits rules = .ok issues) {issue : Issue} (hi : issue ∈ issues) :
    ∃ rule : HazardRule, ∃ found, rule.issues i n limits = .ok found ∧ issue ∈ found := by
  induction rules generalizing issues with
  | nil =>
    obtain rfl := Except.ok.inj h
    cases hi
  | cons rule rules ih =>
    rw [HazardRule.issuesOf] at h
    split at h
    · cases h
    · next found hfound =>
      obtain ⟨rest, hrest, rfl⟩ := except_map_eq_ok h
      cases List.mem_append.mp hi with
      | inl hi => exact ⟨rule, found, hfound, hi⟩
      | inr hi => exact ih hrest hi

/-! ### The rules of smells -/

lemma shortName_rule (seen : List Text) (ls : List SourceLine) :
    ∀ issue ∈ ShortName.issuesFrom i seen ls, issue.rule = Rule.shortName := by
  induction ls generalizing seen with
  | nil => exact List.forall_mem_nil _
  | cons l ls ih =>
    rw [ShortName.issuesFrom]
    split
    · exact ih seen
    · exact List.forall_mem_cons.mpr ⟨rfl, ih _⟩

lemma emptyCatch_rule (ls : List SourceLine) :
    ∀ issue ∈ EmptyCatch.issuesFrom i ls, issue.rule = Rule.emptyCatch := by
  induction ls with
  | nil => exact List.forall_mem_nil _
  | cons l ls ih =>
    rw [EmptyCatch.issuesFrom]
    refine List.forall_mem_append.mpr ⟨?_, ih⟩
    split
    · exact List.forall_mem_singleton.mpr rfl
    · exact List.forall_mem_nil _

lemma eq_of_mem_ite {β : Type} {p : Prop} [Decidable p] {x y : β}
    (h : x ∈ if p then [y] else []) : x = y := by
  split at h
  · exact List.mem_singleton.mp h
  · cases h

lemma functionSize_rule {ρ : Type} {c : Complexity} {t : Thresholds ι ρ} {issue : Issue}
    (h : issue ∈ FunctionSize.issues i c t) : issue.rule ∈ SmellCheck.functionSize.names := by
  obtain ⟨f, -, h⟩ := List.mem_flatMap.mp h
  obtain ⟨l, -, h⟩ := List.mem_flatMap.mp h
  rw [FunctionSize.issuesOf, List.mem_append, List.mem_append] at h
  obtain (hlong | hparameters) | hcomplex := h
  · rw [eq_of_mem_ite hlong]
    exact .head _
  · rw [eq_of_mem_ite hparameters]
    exact .tail _ (.head _)
  · rw [eq_of_mem_ite hcomplex]
    exact .tail _ (.tail _ (.head _))

lemma smell_rule {ρ : Type} [Scalar ρ] {m : Measurements} {t : Thresholds ι ρ}
    (check : SmellCheck) {issue : Issue} (h : issue ∈ check.issues i m t) :
    issue.rule ∈ check.names := by
  cases check with
  | functionSize => exact functionSize_rule h
  | magicNumbers =>
    obtain ⟨l, -, h⟩ := List.mem_filterMap.mp h
    obtain ⟨number, -, rfl⟩ := Option.map_eq_some_iff.mp h
    exact List.mem_singleton_self _
  | debugOutput =>
    obtain ⟨l, -, rfl⟩ := List.mem_map.mp h
    exact List.mem_singleton_self _
  | todoComments =>
    obtain ⟨l, -, h⟩ := List.mem_filterMap.mp h
    obtain ⟨mark, -, rfl⟩ := Option.map_eq_some_iff.mp h
    exact List.mem_singleton_self _
  | shortNames => exact List.mem_singleton.mpr (shortName_rule _ _ issue h)
  | mixedNaming =>
    change issue ∈ MixedNaming.issues i at h
    unfold MixedNaming.issues at h
    dsimp only at h
    split at h
    · cases h
    · obtain ⟨l, -, rfl⟩ := List.mem_map.mp h
      exact List.mem_singleton_self _
  | emptyCatch => exact List.mem_singleton.mpr (emptyCatch_rule _ issue h)
  | missingDocs =>
    obtain ⟨declared, -, h⟩ := List.mem_filterMap.mp h
    obtain ⟨description, -, h⟩ := Option.bind_eq_some_iff.mp h
    obtain ⟨l, -, h⟩ := Option.bind_eq_some_iff.mp h
    obtain rfl := Option.some.inj h
    exact List.mem_singleton_self _
  | duplicates =>
    obtain ⟨b, -, h⟩ := List.mem_filterMap.mp h
    obtain ⟨l, -, rfl⟩ := Option.map_eq_some_iff.mp h
    exact List.mem_singleton_self _

/-! ### Crashes in descriptions -/

lemma lowerAfter_append (before s t : Text) :
    ∃ lowered, Text.lowerAfter before (s ++ t) =
      lowered ++ Text.lowerAfter (s.reverse ++ before) t := by
  induction s generalizing before with
  | nil => exact ⟨[], rfl⟩
  | cons c s ih =>
    obtain ⟨lowered, hlowered⟩ := ih (c :: before)
    rw [List.cons_append, Text.lowerAfter, hlowered]
    simp only [List.reverse_cons, List.append_assoc, List.singleton_append]
    exact ⟨_, (List.append_assoc _ _ _).symm⟩

lemma occurs_append_left {part s : Text} (h : Text.occurs part s = true) (before : Text) :
    Text.occurs part (before ++ s) = true := by
  induction before with
  | nil => exact h
  | cons c before ih => rw [List.cons_append, Text.occurs, ih, Bool.or_true]

/-- Only the Greek sigma looks at what precedes it, so the path is in lower case after any text. -/
lemma occurs_crash (before : Text) :
    Text.occurs "crash" (Text.lower (before ++ " on a crash-prone path")) = true := by
  obtain ⟨lowered, hlowered⟩ := lowerAfter_append [] before " on a crash-prone path"
  have hpath : ∀ before : Text, Text.lowerAfter before " on a crash-prone path" =
      " on a crash-prone path" := fun _ => rfl
  rw [Text.lower, hlowered, hpath]
  exact occurs_append_left (by decide) lowered

lemma issueOf_confirmed {name : Text} {l : SourceLine}
    (h : (Dereference.issueOf i name l).severity = .critical) :
    (Dereference.issueOf i name l).isConfirmedCritical = true := by
  have hcrash : Issue.crashPhrases.any (fun phrase =>
      Text.occurs phrase (Text.lower (Dereference.issueOf i name l).description)) = true := by
    refine List.any_eq_true.mpr ⟨"crash", by decide, ?_⟩
    unfold Dereference.issueOf at h ⊢
    generalize Dereference.crashWords.any _ = crashProne at h ⊢
    cases crashProne with
    | true => exact occurs_crash _
    | false => cases h
  rw [Issue.isConfirmedCritical, h, hcrash]
  rfl

/-! ### Found issues -/

lemma isConfirmedCritical_of_division {issue : Issue} (hrule : issue.rule = Rule.division)
    (hseverity : issue.severity = .critical) (htry : ("try" : Text) ∉ issue.context) :
    issue.isConfirmedCritical = true := by
  have hstructural : Issue.structuralRules.contains Rule.division = true := by decide
  have hcontext : issue.context.contains ("try" : Text) = false := by
    simpa using htry
  rw [Issue.isConfirmedCritical, hrule, hseverity, hstructural, hcontext]
  exact Bool.or_true _

variable {ρ : Type} [Scalar ρ]

lemma detectSmells_not_unguarded {m : Measurements} {t : Thresholds ι ρ} {issue : Issue}
    (h : issue ∈ detectSmells i m t) : ¬issue.IsUnguarded := by
  obtain ⟨check, -, h⟩ := List.mem_flatMap.mp h
  have hnames : ∀ check : SmellCheck,
      Rule.division ∉ check.names ∧ Rule.dereference ∉ check.names := by
    intro check
    cases check <;> decide
  have hrule := smell_rule check h
  rintro (⟨hdivision, -⟩ | ⟨hdereference, -⟩)
  · exact (hnames check).1 (hdivision ▸ hrule)
  · exact (hnames check).2 (hdereference ▸ hrule)

lemma scanHazards_confirmed {n : Nesting} {issues : List Issue}
    (h : scanHazards i n limits = .ok issues) {issue : Issue} (hi : issue ∈ issues)
    (hunguarded : issue.IsUnguarded) : issue.isConfirmedCritical = true := by
  obtain ⟨rule, found, hfound, hi⟩ := mem_issuesOf h hi
  have hname := hazard_rule rule hfound issue hi
  obtain ⟨hrule, htry⟩ | ⟨hrule, hcritical⟩ := hunguarded
  · obtain rfl : rule = .division := by
      rw [hrule] at hname
      cases rule <;> first | rfl | exact absurd hname (by decide)
    exact isConfirmedCritical_of_division hrule (division_rule hfound issue hi).2 htry
  · obtain rfl : rule = .dereference := by
      rw [hrule] at hname
      cases rule <;> first | rfl | exact absurd hname (by decide)
    obtain rfl := Except.ok.inj hfound
    obtain ⟨name, l, rfl⟩ := mem_dereference hi
    exact issueOf_confirmed hcritical

/-! ### Ratings of reliability -/

lemma rateReliability_eq_ok {t : Thresholds ι ρ} {a : Aggregation ρ} {confirmed : Nat}
    {rating : Rating ρ} (h : rateReliability t a confirmed = .ok rating) :
    (Scalar.isFinite (Scalar.ofInt 100 - a.deduction) = false ∧
        rating = invalidScore .reliability) ∨
      Scalar.isFinite (Scalar.ofInt 100 - a.deduction) = true ∧
        rating.score = Scalar.clampScore (Scalar.ofInt 100 - a.deduction) ∧
        rating.grade = reliabilityGrade t rating.score confirmed ∧
        reliabilityWarning t a rating.grade = .ok rating.warningFlag := by
  obtain ⟨-, -, h⟩ := bind_eq_ok h
  split at h
  · next hfinite =>
    obtain ⟨warning, hwarning, h⟩ := bind_eq_ok h
    obtain rfl := Except.ok.inj h
    exact .inr ⟨hfinite, rfl, rfl, hwarning⟩
  · next hfinite =>
    obtain rfl := Except.ok.inj h
    exact .inl ⟨Bool.eq_false_iff.mpr hfinite, rfl⟩

lemma rateReliability_of_confirmed {t : Thresholds ι ρ} {a : Aggregation ρ} {confirmed : Nat}
    {rating : Rating ρ} (h : rateReliability t a confirmed = .ok rating) (hpos : 0 < confirmed) :
    rating.grade = .d ∧ rating.warningFlag = false := by
  obtain ⟨-, rfl⟩ | ⟨-, -, hgrade, hwarning⟩ := rateReliability_eq_ok h
  · exact ⟨rfl, rfl⟩
  · rw [reliabilityGrade, if_pos hpos] at hgrade
    rw [hgrade] at hwarning
    exact ⟨hgrade, (Except.ok.inj hwarning).symm⟩

end

/-! ### Reports -/

variable {ι ρ : Type} [Limit ι] [Scalar ρ]

lemma ofSource_confirmed (t : Thresholds ι ρ) (s : Source) (blocks : BlockMap) {issue : Issue}
    (hi : issue ∈ (Findings.ofSource t s blocks).issues) (h : issue.IsUnguarded) :
    issue.isConfirmedCritical = true := by
  cases List.mem_append.mp hi with
  | inl hi =>
    split at hi
    · next found hfound => exact scanHazards_confirmed hfound hi h
    · cases hi
  | inr hi => exact absurd h (detectSmells_not_unguarded hi)

/-- The score of reliability before it is kept between 0 and 100. -/
def reliabilityScore (t : Thresholds ι ρ) (f : Findings) : ρ :=
  Scalar.ofInt 100 - (aggregate t Category.reliability .empty f.issues).1.deduction

variable [LimitIn ι ρ]

/-- The rating of reliability follows the confirmed critical issues of the report. A division outside
error handling and a critical dereference are always among them and make the worst grade without a
warning; when there are none, a score that is a number decides. -/
theorem analyze_critical_override (t : Thresholds ι ρ) (tag text : Text) {report : Report ρ}
    (h : analyze t tag text = .ok report) :
    let s := Source.ofText (Language.resolve tag) text
    ((∃ issue ∈ report.issues, issue.IsUnguarded) →
        report.reliability.grade = .d ∧ report.reliability.warningFlag = false) ∧
      ∃ blocks, BlockMap.ofSource s = .ok blocks ∧
        let score := reliabilityScore t (Findings.ofSource t s blocks)
        (∀ issue ∈ report.issues, issue.isConfirmedCritical = false) →
          Scalar.isFinite score = true →
            report.reliability.score = Scalar.clampScore score ∧
              report.reliability.grade = gradeForScore report.reliability.score t.reliabilityAMin
                t.reliabilityBMin t.reliabilityCMin := by
  intro s
  obtain ⟨blocks, hblocks, hrated⟩ := analyze_eq_ok h
  have hmem : ∀ issue, issue ∈ report.issues ↔
      issue ∈ (Findings.ofSource t s blocks).issues := by
    intro issue
    rw [hrated.issues_eq]
    exact (List.mergeSort_perm _ _).mem_iff
  constructor
  · rintro ⟨issue, hissue, hunguarded⟩
    have hissue := (hmem issue).mp hissue
    have hconfirmed := ofSource_confirmed t s blocks hissue hunguarded
    exact rateReliability_of_confirmed hrated.reliability_eq
      (List.countP_pos_iff.mpr ⟨issue, hissue, hconfirmed⟩)
  · refine ⟨blocks, hblocks, fun hnone hfinite => ?_⟩
    have hcount : (Findings.ofSource t s blocks).issues.countP (·.isConfirmedCritical) = 0 := by
      refine List.countP_eq_zero.mpr fun issue hissue => ?_
      rw [hnone issue ((hmem issue).mpr hissue)]
      exact Bool.false_ne_true
    obtain ⟨hinfinite, -⟩ | ⟨-, hscore, hgrade, -⟩ := rateReliability_eq_ok hrated.reliability_eq
    · exact absurd (hfinite.symm.trans hinfinite) (by decide)
    · rw [hcount] at hgrade
      exact ⟨hscore, hgrade⟩

theorem analyze_critical_override_division :
    ∃ report, analyze usualThresholds.typed "python" "x = a / b" = .ok report ∧
      report.reliability.grade = .d ∧ report.reliability.warningFlag = false := by
  obtain ⟨report, hreport⟩ := exists_report_division
  obtain ⟨blocks, hblocks, hrated⟩ := analyze_eq_ok hreport
  obtain rfl := Except.ok.inj (blocks_division.symm.trans hblocks)
  have hfound : ∃ issue ∈ (Findings.ofSource usualThresholds.typed divisionSource ⟨[[]]⟩).issues,
      issue.rule = Rule.division ∧ ("try" : Text) ∉ issue.context := by decide +kernel
  obtain ⟨issue, hissue, hunguarded⟩ := hfound
  refine ⟨report, hreport, (analyze_critical_override _ _ _ hreport).1 ⟨issue, ?_, .inl hunguarded⟩⟩
  rw [hrated.issues_eq]
  exact (List.mergeSort_perm _ _).mem_iff.mpr hissue

end Proofs

end SourceGrade
