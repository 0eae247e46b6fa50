import Mathlib.Algebra.BigOperators.Group.List.Basic
import SourceGrade.Proofs.FoundIssues
import SourceGrade.Proofs.IssueGroups
import SourceGrade.Proofs.RatedReport
import SourceGrade.Proofs.TextOrder

/-!
# Consistent reports

The issues of a report are those that were found, in order, and each of them belongs to the line that
it names. The counts and times that the report derives from them agree with each other.
-/

namespace SourceGrade

/-- The order of a report: by line, and on a line by the name of the rule. -/
def Issue.NoLaterThan (i j : Issue) : Prop :=
  ∃ m n, i.line? = some m ∧ j.line? = some n ∧
    (m < n ∨ m = n ∧ (i.rule = j.rule ∨ List.Lex (fun c d => c.val < d.val) i.rule j.rule))

/-- An issue that says about one of the lines of a unit what is known about it. -/
structure Issue.Describes (i : Issue) (u : Inspection) (line : SourceLine) : Prop where
  mem_lines : line ∈ u.source.lines
  line_eq : i.line? = some (line.number : Int)
  number_pos : 1 ≤ line.number
  number_le : line.number ≤ u.source.lineCount
  getLine : u.source.line? line.number = some line
  snippet_eq : i.snippet = (Text.strip line.raw).take 200
  context_eq : i.context = u.tags line.number
  minutes_eq : i.remediationMinutes = remediation i.category i.severity

/-- A report on an inspected unit that agrees with the issues found in it, and with itself. -/
structure Report.Consistent {α : Type} (r : Report α) (u : Inspection) (found : List Issue) :
    Prop where
  issues_perm : r.issues.Perm found
  issues_ordered : r.issues.Pairwise Issue.NoLaterThan
  /-- Issues of one line and rule stay in the order in which they were found. -/
  ties_kept : ∀ line? rule,
    (r.issues.filter fun i => i.line? = line? ∧ i.rule = rule) =
      found.filter fun i => i.line? = line? ∧ i.rule = rule
  describes : ∀ i ∈ r.issues, ∃ line, i.Describes u line
  totalLines_eq : r.metrics.totalLines = u.source.lineCount
  violations_count : r.violations.major + r.violations.minor = r.issues.length
  details_count : r.violations.details.length = r.issues.length
  references_count : r.violations.lineReferences.length = r.issues.length
  buckets_count : (r.buckets.map (·.2.length)).sum = r.issues.length
  debt_minutes : r.debt.totalMinutes = (r.issues.map (·.remediationMinutes)).sum
  duplicated_le : r.metrics.duplicatedLines ≤ r.metrics.linesOfCode
  code_le : r.metrics.linesOfCode ≤ r.metrics.totalLines

namespace Proofs

/-! ### The order of a report -/

lemma comesBefore_total (i j : Issue) : (i.comesBefore j || j.comesBefore i) = true := by
  have hrules := textLe_total i.rule j.rule
  unfold Issue.comesBefore
  cases i.line? with
  | none => cases j.line? <;> simp [hrules]
  | some m =>
    cases j.line? with
    | none => simp
    | some n =>
      simp only [Bool.or_eq_true, decide_eq_true_eq, Bool.and_eq_true, beq_iff_eq]
      rcases Int.lt_trichotomy m n with hlt | heq | hgt
      · exact .inl (.inl hlt)
      · exact hrules.imp (fun h => .inr ⟨heq, h⟩) (fun h => .inr ⟨heq.symm, h⟩)
      · exact .inr (.inl hgt)

lemma comesBefore_trans (i j k : Issue) (hij : i.comesBefore j = true)
    (hjk : j.comesBefore k = true) : i.comesBefore k = true := by
  unfold Issue.comesBefore at *
  cases hi : i.line? with
  | none =>
    cases hj : j.line? with
    | some n => simp [hi, hj] at hij
    | none =>
      cases hk : k.line? with
      | some p => simp [hj, hk] at hjk
      | none =>
        simp only [hi, hj, hk] at hij hjk
        exact textLe_trans hij hjk
  | some m =>
    cases hk : k.line? with
    | none => rfl
    | some p =>
      cases hj : j.line? with
      | none => simp [hj, hk] at hjk
      | some n =>
        simp only [hi, hj, hk, Bool.or_eq_true, decide_eq_true_eq, Bool.and_eq_true,
          beq_iff_eq] at hij hjk ⊢
        obtain hmn | ⟨rfl, hij⟩ := hij
        · obtain hnp | ⟨rfl, -⟩ := hjk
          · exact .inl (hmn.trans hnp)
          · exact .inl hmn
        · obtain hnp | ⟨rfl, hjk⟩ := hjk
          · exact .inl hnp
          · exact .inr ⟨rfl, textLe_trans hij hjk⟩

lemma filter_mergeSort {β : Type} {le : β → β → Bool}
    (htrans : ∀ a b c, le a b = true → le b c = true → le a c = true)
    (htotal : ∀ a b, (le a b || le b a) = true) (p : β → Bool)
    (htied : ∀ a b, p a = true → p b = true → le a b = true) (xs : List β) :
    (xs.mergeSort le).filter p = xs.filter p := by
  have hsorted : (xs.filter p).Pairwise fun a b => le a b = true := by
    refine List.Pairwise.imp_of_mem ?_ (List.pairwise_of_forall fun _ _ => trivial)
    intro a b ha hb _
    exact htied a b (List.mem_filter.mp ha).2 (List.mem_filter.mp hb).2
  have hsub := (List.sublist_mergeSort htrans htotal hsorted List.filter_sublist).filter p
  simp only [List.filter_filter, Bool.and_self] at hsub
  exact (hsub.eq_of_length ((List.mergeSort_perm xs le).filter p).length_eq.symm).symm

lemma orderIssues_perm (issues : List Issue) : (orderIssues issues).Perm issues :=
  List.mergeSort_perm _ _

lemma orderIssues_ties (issues : List Issue) (line? : Option Int) (rule : Text) :
    ((orderIssues issues).filter fun i => i.line? = line? ∧ i.rule = rule) =
      issues.filter fun i => i.line? = line? ∧ i.rule = rule := by
  refine filter_mergeSort comesBefore_trans comesBefore_total _ (fun i j hi hj => ?_) issues
  simp only [decide_eq_true_eq] at hi hj
  obtain ⟨hi, rfl⟩ := hi
  obtain ⟨hj, hrule⟩ := hj
  have hle := textLe_refl i.rule
  unfold Issue.comesBefore
  rw [hi, hj, hrule]
  cases line? with
  | none => exact hle
  | some n => simp [hle]

/-! ### Issues on lines -/

lemma describes_of_reports {u : Inspection} (hu : u.Regular) {i : Issue} (hi : u.Reports i) :
    ∃ line, i.Describes u line := by
  obtain ⟨category, severity, description, rule, line, hline, rfl⟩ := hi
  obtain ⟨k, hk⟩ := List.mem_iff_getElem?.mp hline
  have hnumber := hu.number_eq k line hk
  have hlt : k < u.source.lines.length := (List.getElem?_eq_some_iff.mp hk).1
  refine ⟨line, hline, rfl, by omega, ?_, ?_, rfl, rfl, rfl⟩
  · rw [hnumber]
    exact hlt
  · rw [hnumber]
    exact hk

lemma noLaterThan_of_comesBefore {u : Inspection} {i j : Issue} {m n : SourceLine}
    (hi : i.Describes u m) (hj : j.Describes u n) (h : i.comesBefore j = true) :
    i.NoLaterThan j := by
  refine ⟨m.number, n.number, hi.line_eq, hj.line_eq, ?_⟩
  unfold Issue.comesBefore at h
  simpa only [hi.line_eq, hj.line_eq, Bool.or_eq_true, decide_eq_true_eq, Bool.and_eq_true,
    beq_iff_eq, textLe_iff] using h

/-! ### Counts -/

lemma violations_counts (issues : List Issue) :
    (Violations.ofIssues issues).major + (Violations.ofIssues issues).minor = issues.length ∧
      (Violations.ofIssues issues).details.length = issues.length := by
  have hle : issues.countP (·.severity.isMajor) ≤ issues.length := List.countP_le_length
  constructor
  · change issues.countP _ + (issues.length - issues.countP _) = issues.length
    omega
  · exact List.length_map _

lemma lineReferences_length {u : Inspection} {issues : List Issue}
    (h : ∀ i ∈ issues, ∃ line, i.Describes u line) :
    (Violations.ofIssues issues).lineReferences.length = issues.length := by
  unfold Violations.ofIssues
  dsimp only
  rw [List.length_filterMap_eq_countP, List.countP_eq_length]
  intro i hi
  obtain ⟨line, hline⟩ := h i hi
  have hne : line.number ≠ 0 := Nat.ne_of_gt hline.number_pos
  simp [Issue.shownLine?, hline.line_eq, hne]

lemma mem_allBuckets (i : Issue) : i.bucket ∈ Issue.allBuckets := by
  unfold Issue.bucket
  cases i.category <;> cases i.severity <;> decide

lemma buckets_total (issues : List Issue) :
    ((categorizeIssues issues).map (·.2.length)).sum = issues.length := by
  have hnodup : Issue.allBuckets.Nodup := by decide
  have hperm : (Issue.allBuckets.flatMap fun b => issues.filter (·.bucket = b)).Perm issues :=
    flatMap_filter_perm Issue.bucket hnodup fun i _ => mem_allBuckets i
  have hempty : ∀ buckets : List (Text × List Text),
      ((buckets.filter fun b => !b.2.isEmpty).map (·.2.length)).sum =
        (buckets.map (·.2.length)).sum := by
    intro buckets
    induction buckets with
    | nil => rfl
    | cons b buckets ih =>
      cases hb : b.2 with
      | nil => simpa [hb] using ih
      | cons entry entries => simpa [hb] using ih
  unfold categorizeIssues
  rw [hempty, ← hperm.length_eq, List.length_flatMap, List.map_map]
  simp [Function.comp_def]

lemma remediationOf_perm {issues issues' : List Issue} (h : issues.Perm issues') :
    (issues.map (·.remediationMinutes)).sum =
      issues'.foldr (fun i minutes => i.remediationMinutes + minutes) 0 := by
  rw [(h.map _).sum_eq]
  induction issues' generalizing issues with
  | nil => rfl
  | cons i issues' ih => rw [List.map_cons, List.sum_cons, ih (.refl _), List.foldr_cons]

lemma totalMinutes_eq {ι α : Type} [Scalar α] [LimitIn ι α] {t : Thresholds ι α}
    {issues : List Issue} {loc : α} {debt : Debt α}
    (h : Debt.ofIssues t issues loc = .ok debt) :
    debt.totalMinutes =
      issues.foldr (fun i minutes => i.remediationMinutes + minutes) 0 := by
  unfold Debt.ofIssues at h
  obtain ⟨-, -, h⟩ := bind_eq_ok h
  obtain ⟨-, -, h⟩ := bind_eq_ok h
  obtain ⟨-, -, h⟩ := bind_eq_ok h
  obtain rfl := Except.ok.inj h
  rfl

/-! ### Lines -/

lemma duplicatedLines_ofLines_le {ι : Type} [Comparable ι] (width : Nat) (minChars : ι)
    (lines : List SignificantLine) :
    (Duplication.ofLines width minChars lines).duplicatedLines ≤ lines.length := by
  unfold Duplication.ofLines
  split
  · exact Nat.zero_le _
  · exact (List.length_filter_le _ _).trans List.length_range.le

variable {ι α : Type} [Limit ι]

lemma duplicatedLines_le (t : Thresholds ι α) (s : Source) :
    (match Duplication.ofWindow t.duplicationWindow t.duplicationMinChars s with
      | .ok found => found
      | .error _ => Duplication.nothing).duplicatedLines ≤ s.lines.countP (·.hasCode) := by
  have hsignificant : s.significantLines.length = s.lines.countP (·.hasCode) := by
    rw [Source.significantLines, List.length_map, Source.codeLines, List.countP_eq_length_filter]
  rw [← hsignificant]
  cases hfound : Duplication.ofWindow t.duplicationWindow t.duplicationMinChars s with
  | error e => exact Nat.zero_le _
  | ok found =>
    unfold Duplication.ofWindow at hfound
    split at hfound
    · obtain rfl := Except.ok.inj hfound
      exact duplicatedLines_ofLines_le _ _ _
    · dsimp only at hfound
      split at hfound
      · obtain rfl := Except.ok.inj hfound
        exact Nat.zero_le _
      · cases hfound
      · cases hfound

/-! ### Reports -/

variable [Scalar α] [LimitIn ι α]

lemma ordered_describes {u : Inspection} {n : Nat} (hu : u.Regular) {found : List Issue}
    (h : u.Found n found) : ∀ i ∈ orderIssues found, ∃ line, i.Describes u line := by
  intro i hi
  exact describes_of_reports hu (h.reports i ((orderIssues_perm found).mem_iff.mp hi))

lemma ordered_pairwise {u : Inspection} {n : Nat} (hu : u.Regular) {found : List Issue}
    (h : u.Found n found) : (orderIssues found).Pairwise Issue.NoLaterThan := by
  have hsorted := List.pairwise_mergeSort comesBefore_trans comesBefore_total found
  refine List.Pairwise.imp_of_mem ?_ hsorted
  intro i j hi hj hij
  obtain ⟨m, hm⟩ := ordered_describes hu h i hi
  obtain ⟨n, hn⟩ := ordered_describes hu h j hj
  exact noLaterThan_of_comesBefore hm hn hij

/-- Every report of an analysis is consistent with the issues that were found. -/
theorem analyze_consistent (t : Thresholds ι α) (tag text : Text) {report : Report α}
    (h : analyze t tag text = .ok report) :
    let s := Source.ofText (Language.resolve tag) text
    ∃ blocks, BlockMap.ofSource s = .ok blocks ∧
      report.Consistent ⟨s, blocks, s.functions⟩ (Findings.ofSource t s blocks).issues := by
  intro s
  obtain ⟨blocks, hblocks, hrated⟩ := analyze_eq_ok h
  have hregular := ofText_regular (Language.resolve tag) text hblocks
  have hfound := ofSource_issues_found (Language.resolve tag) text t hblocks
  have hdescribes := ordered_describes hregular hfound
  obtain ⟨adjusted, -, hmetrics⟩ := hrated.metrics_eq
  have hperm := orderIssues_perm (Findings.ofSource t s blocks).issues
  refine ⟨blocks, hblocks, ?_⟩
  constructor
  · rw [hrated.issues_eq]
    exact hperm
  · rw [hrated.issues_eq]
    exact ordered_pairwise hregular hfound
  · rw [hrated.issues_eq]
    exact orderIssues_ties _
  · rw [hrated.issues_eq]
    exact hdescribes
  · rw [hmetrics]
    rfl
  · rw [hrated.violations_eq]
    exact (violations_counts _).1
  · rw [hrated.violations_eq]
    exact (violations_counts _).2
  · rw [hrated.violations_eq, hrated.issues_eq]
    exact lineReferences_length hdescribes
  · rw [hrated.buckets_eq]
    exact buckets_total _
  · rw [totalMinutes_eq hrated.debt_eq, hrated.issues_eq]
    exact (remediationOf_perm hperm).symm
  · rw [hmetrics]
    exact Int.ofNat_le.mpr (duplicatedLines_le t s)
  · rw [hmetrics]
    exact Int.ofNat_le.mpr List.countP_le_length

/-- The report on a text that divides by a name shows one issue, and its times and counts follow. -/
theorem analyze_consistent_division :
    ∃ report : Report Amount, analyze usualThresholds.typed "python" "x = a / b" = .ok report ∧
      report.violations.details.length = 1 ∧ report.debt.totalMinutes = 30 := by
  obtain ⟨report, hreport⟩ := exists_report_division
  obtain ⟨blocks, hblocks, hconsistent⟩ := analyze_consistent usualThresholds.typed _ _ hreport
  obtain rfl := Except.ok.inj (blocks_division.symm.trans hblocks)
  have hfound : (Findings.ofSource usualThresholds.typed divisionSource ⟨[[]]⟩).issues.map
      (·.remediationMinutes) = [30] := by decide +kernel
  have hminutes : (report.issues.map (·.remediationMinutes)).Perm [30] :=
    hfound ▸ hconsistent.issues_perm.map _
  refine ⟨report, hreport, ?_, ?_⟩
  · rw [hconsistent.details_count, ← List.length_map (·.remediationMinutes),
      hminutes.length_eq, List.length_singleton]
  · rw [hconsistent.debt_minutes, hminutes.sum_eq, List.sum_singleton]

end Proofs

end SourceGrade
