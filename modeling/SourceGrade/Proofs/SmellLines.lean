import SourceGrade.Proofs.IssueLines
import SourceGrade.Smell.Detect

/-!
# The lines of smells

Each check for smells reports lines of the unit, and no more issues than its lines, its declarations
and its repeated blocks allow.
-/

namespace SourceGrade.Proofs

open Inspection (Found)

variable {i : Inspection}

lemma mem_lines_of_codeLine {l : SourceLine} (hl : l ∈ i.codeLines) : l ∈ i.source.lines :=
  (codeLines_sublist i).subset hl

/-! ### Checks of single lines -/

lemma magicNumber_found (i : Inspection) :
    Found i i.source.lines.length (MagicNumber.issues i) := by
  refine (Found.filterMap fun l hl issue hissue => ?_).mono (codeLines_sublist i).length_le
  obtain ⟨number, -, rfl⟩ := Option.map_eq_some_iff.mp hissue
  exact reports_issueAt (mem_lines_of_codeLine hl) _ _ _ _

lemma debugOutput_found (i : Inspection) :
    Found i i.source.lines.length (DebugOutput.issues i) := by
  have hprinting : (i.codeLines.filter fun l => DebugOutput.statement.occursIn l.code).Sublist
      i.source.lines := List.filter_sublist.trans (codeLines_sublist i)
  exact (Found.map fun l hl => reports_issueAt (hprinting.subset hl) _ _ _ _).mono
    hprinting.length_le

lemma todoComment_found (i : Inspection) :
    Found i i.source.lines.length (TodoComment.issues i) := by
  refine Found.filterMap fun l hl issue hissue => ?_
  obtain ⟨m, -, rfl⟩ := Option.map_eq_some_iff.mp hissue
  exact reports_issueAt hl _ _ _ _

lemma shortName_found (i : Inspection) : Found i i.source.lines.length (ShortName.issues i) := by
  suffices hfrom : ∀ ls ⊆ i.source.lines, ∀ seen,
      Found i ls.length (ShortName.issuesFrom i seen ls) from
    (hfrom i.codeLines (codeLines_sublist i).subset _).mono (codeLines_sublist i).length_le
  intro ls
  induction ls with
  | nil => exact fun _ _ => Found.nil 0
  | cons l ls ih =>
    intro hls seen
    obtain ⟨hl, hls⟩ := List.cons_subset.mp hls
    rw [ShortName.issuesFrom]
    split
    · exact (ih hls seen).mono (Nat.le_succ _)
    · exact (Found.singleton (reports_issueAt hl _ _ _ _)).cons (ih hls _)

lemma emptyCatch_found (i : Inspection) : Found i i.source.lines.length (EmptyCatch.issues i) := by
  suffices hfrom : ∀ ls ⊆ i.source.lines, Found i ls.length (EmptyCatch.issuesFrom i ls) from
    (hfrom i.codeLines (codeLines_sublist i).subset).mono (codeLines_sublist i).length_le
  intro ls
  induction ls with
  | nil => exact fun _ => Found.nil 0
  | cons l ls ih =>
    intro hls
    obtain ⟨hl, hls⟩ := List.cons_subset.mp hls
    rw [EmptyCatch.issuesFrom]
    refine Found.cons ?_ (ih hls)
    split
    · exact Found.singleton (reports_issueAt hl _ _ _ _)
    · exact Found.nil 1

/-! ### Checks of declarations and repeats -/

lemma mixedNaming_found (i : Inspection) : Found i 1 (MixedNaming.issues i) := by
  unfold MixedNaming.issues
  dsimp only
  split
  · exact Found.nil 1
  · refine (Found.map fun l hl => ?_).mono Option.length_toList_le
    obtain ⟨f, -, hline⟩ := Option.bind_eq_some_iff.mp (Option.mem_toList.mp hl)
    exact reports_issueAt (mem_lines_of_line? hline) _ _ _ _

variable {ι ρ : Type} [Comparable ι]

lemma functionSize_found (c : Complexity) (t : Thresholds ι ρ) :
    Found i (i.functions.length * 3) (FunctionSize.issues i c t) := by
  have hif : ∀ {p : Prop} [Decidable p] {issue : Issue}, i.Reports issue →
      Found i 1 (if p then [issue] else []) := by
    intro p _ issue h
    split
    · exact Found.singleton h
    · exact Found.nil 1
  refine Found.flatMap fun f _ => ?_
  have hlines : (i.source.line? f.startLine).toList.length * 3 ≤ 3 := by
    have := Option.length_toList_le (o := i.source.line? f.startLine)
    omega
  refine (Found.flatMap fun l hl => ?_).mono hlines
  have hl : l ∈ i.source.lines := mem_lines_of_line? (Option.mem_toList.mp hl)
  exact ((hif (reports_issueAt hl _ _ _ _)).append (hif (reports_issueAt hl _ _ _ _))).append
    (hif (reports_issueAt hl _ _ _ _))

lemma missingDocs_found (d : Documentation) (t : Thresholds ι ρ) :
    Found i d.undocumented.length (MissingDocs.issues i d t) := by
  refine Found.filterMap fun x _ issue hissue => ?_
  obtain ⟨description, -, hissue⟩ := Option.bind_eq_some_iff.mp hissue
  obtain ⟨l, hl, hissue⟩ := Option.bind_eq_some_iff.mp hissue
  obtain rfl := Option.some.inj hissue
  exact reports_issueAt (mem_lines_of_line? hl) _ _ _ _

lemma repeatedBlock_found [Scalar ρ] (d : Duplication) :
    Found i d.blocks.length (RepeatedBlock.issues ρ i d) := by
  refine Found.filterMap fun b _ issue hissue => ?_
  obtain ⟨l, hl, rfl⟩ := Option.map_eq_some_iff.mp hissue
  exact reports_issueAt (mem_lines_of_line? hl) _ _ _ _

/-! ### Measurements -/

lemma declared_length_le (functions : List FunctionSpan) (classes : List ClassDeclaration) :
    (Documentation.declared functions classes).length ≤ functions.length + classes.length := by
  unfold Documentation.declared
  dsimp only
  rw [List.length_mergeSort, List.length_append, List.length_map, List.length_map]
  exact Nat.add_le_add_left (List.length_filter_le _ _) _

lemma undocumented_length_le (s : Source) (functions : List FunctionSpan)
    (classes : List ClassDeclaration) (lookback : ι) :
    (Documentation.ofSource s functions classes lookback).undocumented.length ≤
      functions.length + classes.length :=
  (List.length_filter_le _ _).trans (declared_length_le functions classes)

lemma runs_length_le (positions : List Nat) :
    (Duplication.runs positions).length ≤ positions.length := by
  induction positions with
  | nil => exact le_rfl
  | cons p ps ih =>
    rw [Duplication.runs, List.length_cons]
    split
    · exact Nat.succ_le_succ (Nat.zero_le _)
    · next first length rest hruns =>
      rw [hruns, List.length_cons] at ih
      split <;> simp only [List.length_cons] <;> omega

lemma blocks_length_le (width : Nat) (minChars : ι) (lines : List SignificantLine) :
    (Duplication.ofLines width minChars lines).blocks.length ≤ lines.length := by
  unfold Duplication.ofLines
  split
  · exact Nat.zero_le _
  · dsimp only
    rw [List.length_map]
    refine (runs_length_le _).trans ((List.length_filter_le _ _).trans ?_)
    rw [List.length_range]

lemma ofSource_blocks_length_le (width : Nat) (minChars : ι) (s : Source) :
    (Duplication.ofSource width minChars s).blocks.length ≤ s.lines.length := by
  refine (blocks_length_le width minChars s.significantLines).trans ?_
  rw [Source.significantLines, List.length_map]
  exact List.length_filter_le _ _

/-! ### All checks -/

lemma check_found [Scalar ρ] {n : Nat} (hn : i.Within n) {m : Measurements}
    (hdocumentation : m.documentation.undocumented.length ≤ 2 * n)
    (hduplication : m.duplication.blocks.length ≤ n) (t : Thresholds ι ρ) (check : SmellCheck) :
    Found i (n * (3 * n)) (check.issues i m t) := by
  have hlinear : 3 * n ≤ n * (3 * n) := Nat.le_mul_of_pos_left (3 * n) hn.pos
  have hextent := hn.extent_le
  have hlines := length_le_extent i.source.lines
  have hfunctions := hn.functions_le
  cases check with
  | functionSize => exact (functionSize_found m.complexity t).mono (by omega)
  | magicNumbers => exact (magicNumber_found i).mono (by omega)
  | debugOutput => exact (debugOutput_found i).mono (by omega)
  | todoComments => exact (todoComment_found i).mono (by omega)
  | shortNames => exact (shortName_found i).mono (by omega)
  | mixedNaming =>
    have hpos := hn.pos
    exact (mixedNaming_found i).mono (by omega)
  | emptyCatch => exact (emptyCatch_found i).mono (by omega)
  | missingDocs => exact (missingDocs_found m.documentation t).mono (by omega)
  | duplicates => exact (repeatedBlock_found m.duplication).mono (by omega)

theorem detectSmells_found [Scalar ρ] {n : Nat} (hn : i.Within n) {m : Measurements}
    (hdocumentation : m.documentation.undocumented.length ≤ 2 * n)
    (hduplication : m.duplication.blocks.length ≤ n) (t : Thresholds ι ρ) :
    Found i (9 * (n * (3 * n))) (detectSmells i m t) := by
  have hall : Found i (SmellCheck.all.length * (n * (3 * n))) (detectSmells i m t) :=
    Found.flatMap fun check _ => check_found hn hdocumentation hduplication t check
  exact hall

end SourceGrade.Proofs
