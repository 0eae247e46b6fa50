import SourceGrade.Proofs.CriticalOverride
import SourceGrade.Proofs.NumericLiterals

/-!
# Where the search for hazards stops

The search for hazards stops at a divisor that writes a whole number beyond all doubles, and at
nothing else. The unit then counts as having no hazards, and its report shows its smells alone.
-/

namespace SourceGrade

/-- A divisor of the unit that is judged, its division being no part of a regular expression. -/
def Division.Judges (i : Inspection) (divisor : Text) : Prop :=
  ∃ l m, (l, m) ∈ operations i ∧
    regexContext.occursIn (l.code.take (((m.capture? .operator).map (·.start)).getD 0)) = false ∧
    divisor? l.code m = some divisor

/-- The unit divides by a whole number beyond all doubles. -/
def Division.HasHuge (i : Inspection) : Prop :=
  ∃ divisor, Judges i divisor ∧ LiteralValue.IsHuge divisor

namespace Proofs

variable {i : Inspection} {e : HazardError}

/-! ### Divisions -/

lemma except_map_eq_error {ε α β : Type} {x : Except ε α} {f : α → β} {e : ε} :
    x.map f = .error e ↔ x = .error e := by
  cases x <;> simp [Except.map]

lemma judge_eq_error {l : SourceLine} {m : Match} :
    Division.judge i l m = .error e ↔ e = .hugeLiteral ∧
      Division.regexContext.occursIn
        (l.code.take (((m.capture? .operator).map (·.start)).getD 0)) = false ∧
      ∃ divisor, Division.divisor? l.code m = some divisor ∧ LiteralValue.IsHuge divisor := by
  unfold Division.judge
  dsimp only
  split
  · next hregex => simp [hregex]
  · next hregex =>
    split
    · next hnone => simp [hnone]
    · next divisor hdivisor =>
      have hhuge : (∃ d, Division.divisor? l.code m = some d ∧ LiteralValue.IsHuge d) ↔
          LiteralValue.ofText divisor = .tooLarge := by
        rw [ofText_eq_tooLarge, hdivisor]
        simp
      rw [hhuge]
      split
      · next hvalue => simp [hvalue, hregex, eq_comm]
      · next hvalue => simp [hvalue]
      · next hvalue => simp [hvalue]
      · next hvalue => split <;> simp [hvalue]

lemma judgeAll_eq_error {ops : List (SourceLine × Match)} :
    Division.judgeAll i ops = .error e ↔ e = .hugeLiteral ∧
      ∃ op ∈ ops, Division.judge i op.1 op.2 = .error .hugeLiteral := by
  induction ops with
  | nil => simp [Division.judgeAll]
  | cons op ops ih =>
    obtain ⟨l, m⟩ := op
    rw [Division.judgeAll]
    cases hop : Division.judge i l m with
    | error e' =>
      obtain ⟨rfl, -⟩ := judge_eq_error.mp hop
      simp [hop, eq_comm]
    | ok finding =>
      dsimp only
      rw [except_map_eq_error, ih]
      simp [hop]

lemma division_eq_error :
    Division.issues i = .error e ↔ e = .hugeLiteral ∧ Division.HasHuge i := by
  rw [Division.issues, except_map_eq_error, judgeAll_eq_error]
  refine and_congr_right fun _ => ?_
  constructor
  · rintro ⟨⟨l, m⟩, hop, hjudge⟩
    obtain ⟨-, hregex, divisor, hdivisor, hhuge⟩ := judge_eq_error.mp hjudge
    exact ⟨divisor, ⟨l, m, hop, hregex, hdivisor⟩, hhuge⟩
  · rintro ⟨divisor, ⟨l, m, hop, hregex, hdivisor⟩, hhuge⟩
    exact ⟨(l, m), hop, judge_eq_error.mpr ⟨rfl, hregex, divisor, hdivisor, hhuge⟩⟩

/-! ### Nesting -/

lemma deepest_eq_zero {base line : Nat} {best : Depth} {ds : List Nat}
    (hbest : best.deepestLine? = none → best.depth = 0)
    (h : (Depth.deepest base line best ds).deepestLine? = none) :
    (Depth.deepest base line best ds).depth = 0 := by
  induction ds generalizing line best with
  | nil => exact hbest h
  | cons d ds ih =>
    rw [Depth.deepest] at h ⊢
    refine ih ?_ h
    split
    · intro hnone
      cases hnone
    · exact hbest

lemma ofFunction_eq_zero {blocks : BlockMap} {functions : List FunctionSpan} {f : FunctionSpan}
    (h : ((Nesting.ofBlocks blocks functions).ofFunction f).deepestLine? = none) :
    ((Nesting.ofBlocks blocks functions).ofFunction f).depth = 0 := by
  suffices hfound : ∀ o : Option (FunctionSpan × Depth),
      (∀ x, o = some x → x ∈ (Nesting.ofBlocks blocks functions).perFunction) →
        ((o.map Prod.snd).getD (Depth.mk 0 none)).deepestLine? = none →
          ((o.map Prod.snd).getD (Depth.mk 0 none)).depth = 0 from
    hfound _ (fun x hx => List.mem_of_find?_eq_some hx) h
  intro o hmem hnone
  cases o with
  | none => rfl
  | some x =>
    obtain ⟨g, -, rfl⟩ := List.mem_map.mp (hmem x rfl)
    exact deepest_eq_zero (fun _ => rfl) hnone

variable {ι : Type} [Comparable ι] {limits : DeepNesting.Limits ι}

lemma functionFindings_ok (hwarn : Comparable.isWithin 0 limits.warn = true)
    (blocks : BlockMap) (functions : List FunctionSpan) (flagged : List Nat)
    (fs : List FunctionSpan) :
    ∃ found, DeepNesting.functionFindings (.ofBlocks blocks functions) limits flagged fs =
      .ok found := by
  induction fs generalizing flagged with
  | nil => exact ⟨[], rfl⟩
  | cons f fs ih =>
    rw [DeepNesting.functionFindings]
    split
    · exact ih flagged
    · next hdeep =>
      split
      · next hnone =>
        rw [ofFunction_eq_zero hnone] at hdeep
        exact absurd hwarn hdeep
      · next line _ =>
        split
        · exact ih flagged
        · obtain ⟨found, hfound⟩ := ih (line :: flagged)
          rw [hfound]
          exact ⟨_, rfl⟩

lemma nesting_ok (hwarn : Comparable.isWithin 0 limits.warn = true) (i : Inspection) :
    ∃ issues, DeepNesting.issues i (.ofBlocks i.blocks i.functions) limits = .ok issues := by
  obtain ⟨found, hfound⟩ := functionFindings_ok hwarn i.blocks i.functions []
    (DeepNesting.byLength i.functions)
  rw [DeepNesting.issues, DeepNesting.findings, hfound]
  exact ⟨_, rfl⟩

/-! ### All rules -/

lemma rule_eq_error (hwarn : Comparable.isWithin 0 limits.warn = true) {rule : HazardRule}
    (h : rule.issues i (.ofBlocks i.blocks i.functions) limits = .error e) :
    Division.issues i = .error e := by
  cases rule with
  | division => exact h
  | nesting =>
    obtain ⟨issues, hissues⟩ := nesting_ok hwarn i
    rw [HazardRule.issues, hissues] at h
    cases h
  | indexing | dereference | riskyCalls | userInput | resources | deadCode => cases h

lemma issuesOf_eq_error {n : Nesting} {rules : List HazardRule}
    (h : HazardRule.issuesOf i n limits rules = .error e) :
    ∃ rule ∈ rules, rule.issues i n limits = .error e := by
  induction rules with
  | nil => cases h
  | cons rule rules ih =>
    rw [HazardRule.issuesOf] at h
    split at h
    · next e' hrule =>
      obtain rfl := Except.error.inj h
      exact ⟨rule, List.mem_cons_self, hrule⟩
    · obtain ⟨rule', hmem, hrule⟩ := ih (except_map_eq_error.mp h)
      exact ⟨rule', List.mem_cons_of_mem rule hmem, hrule⟩

lemma scanHazards_eq_error (hwarn : Comparable.isWithin 0 limits.warn = true) :
    scanHazards i (.ofBlocks i.blocks i.functions) limits = .error e ↔
      e = .hugeLiteral ∧ Division.HasHuge i := by
  rw [← division_eq_error]
  constructor
  · intro h
    obtain ⟨rule, -, hrule⟩ := issuesOf_eq_error h
    exact rule_eq_error hwarn hrule
  · intro h
    rw [scanHazards, HazardRule.all, HazardRule.issuesOf, HazardRule.issues, h]

/-! ### Reports -/

lemma hazard_name_ne {ρ : Type} [Scalar ρ] {m : Measurements} {t : Thresholds ι ρ} {issue : Issue}
    (h : issue ∈ detectSmells i m t) (rule : HazardRule) : issue.rule ≠ rule.name := by
  obtain ⟨check, -, h⟩ := List.mem_flatMap.mp h
  have hnames : ∀ (check : SmellCheck) (rule : HazardRule), rule.name ∉ check.names := by
    intro check rule
    cases check <;> cases rule <;> decide
  intro heq
  exact hnames check rule (heq ▸ smell_rule check h)

/-- With a limit of nesting that is not negative the search for hazards stops exactly at a divisor
that writes a whole number beyond all doubles, and finds issues otherwise. Where it stops, a report
shows the smells of the text and no hazard. -/
theorem scanHazards_stops {ι ρ : Type} [Limit ι] [Scalar ρ] [LimitIn ι ρ] (t : Thresholds ι ρ)
    (hwarn : Comparable.isWithin 0 t.nestingWarnDepth = true) (tag text : Text) {blocks : BlockMap}
    (hblocks : BlockMap.ofSource (Source.ofText (Language.resolve tag) text) = .ok blocks) :
    let s := Source.ofText (Language.resolve tag) text
    let i : Inspection := ⟨s, blocks, s.functions⟩
    let n := Nesting.ofBlocks blocks s.functions
    let limits := Findings.nestingLimits t
    (∀ e, scanHazards i n limits = .error e ↔ e = .hugeLiteral ∧ Division.HasHuge i) ∧
      (¬Division.HasHuge i → ∃ issues, scanHazards i n limits = .ok issues) ∧
      (Division.HasHuge i → ∀ report, analyze t tag text = .ok report →
        let f := Findings.ofSource t s blocks
        report.issues =
            orderIssues (detectSmells i ⟨f.complexity, f.duplication, f.documentation⟩ t) ∧
          ∀ issue ∈ report.issues, ∀ rule : HazardRule, issue.rule ≠ rule.name) := by
  intro s i n limits
  have hstops : ∀ e, scanHazards i n limits = .error e ↔
      e = .hugeLiteral ∧ Division.HasHuge i := fun e => scanHazards_eq_error hwarn
  refine ⟨hstops, fun hnone => ?_, fun hhuge report hreport => ?_⟩
  · cases hscan : scanHazards i n limits with
    | ok issues => exact ⟨issues, rfl⟩
    | error e => exact absurd ((hstops e).mp hscan).2 hnone
  · intro f
    obtain ⟨blocks', hblocks', hrated⟩ := analyze_eq_ok hreport
    obtain rfl := Except.ok.inj (hblocks.symm.trans hblocks')
    have hissues : f.issues =
        detectSmells i ⟨f.complexity, f.duplication, f.documentation⟩ t := by
      have hscan := (hstops _).mpr ⟨rfl, hhuge⟩
      change Findings.issuesOf t i n _ = _
      rw [Findings.issuesOf, hscan]
      rfl
    have hordered := hrated.issues_eq.trans (congrArg orderIssues hissues)
    refine ⟨hordered, fun issue hissue rule => ?_⟩
    rw [hordered] at hissue
    exact hazard_name_ne ((List.mergeSort_perm _ _).mem_iff.mp hissue) rule

/-- A line that divides by a whole number beyond all doubles. -/
def hugeText : Text := "x = a / (0x" ++ List.replicate 256 'f' ++ ")"

theorem scanHazards_stops_literal :
    let s := Source.ofText (Language.resolve "python") hugeText
    let i : Inspection := ⟨s, ⟨[[]]⟩, s.functions⟩
    let n := Nesting.ofBlocks ⟨[[]]⟩ s.functions
    let limits := Findings.nestingLimits usualThresholds.typed
    BlockMap.ofSource s = .ok ⟨[[]]⟩ ∧ scanHazards i n limits = .error .hugeLiteral ∧
      ∃ report, analyze usualThresholds.typed "python" hugeText = .ok report ∧
        ∀ issue ∈ report.issues, ∀ rule : HazardRule, issue.rule ≠ rule.name := by
  intro s i n limits
  have hblocks : BlockMap.ofSource s = .ok ⟨[[]]⟩ := by decide +kernel
  have hjudged : ∃ op ∈ Division.operations i, Division.regexContext.occursIn
        (op.1.code.take (((op.2.capture? .operator).map (·.start)).getD 0)) = false ∧
      Division.divisor? op.1.code op.2 = some ("(0x" ++ List.replicate 256 'f' ++ ")") := by
    decide +kernel
  obtain ⟨⟨l, m⟩, hop, hregex, hdivisor⟩ := hjudged
  have hhuge : Division.HasHuge i :=
    ⟨_, ⟨l, m, hop, hregex, hdivisor⟩, ofText_eq_tooLarge.mp (by decide +kernel)⟩
  have hmain :=
    scanHazards_stops usualThresholds.typed (by decide +kernel) "python" hugeText hblocks
  obtain ⟨report, hreport⟩ := exists_report usualThresholds hblocks (by decide +kernel)
    (by decide +kernel)
  exact ⟨hblocks, (hmain.1 _).mpr ⟨rfl, hhuge⟩, report, hreport,
    (hmain.2.2 hhuge report hreport).2⟩

end Proofs

end SourceGrade
