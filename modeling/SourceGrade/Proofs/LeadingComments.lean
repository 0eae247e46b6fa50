import SourceGrade.Measure.Documentation
import SourceGrade.Proofs.LineCounts

/-!
# Comments above declarations

The documentation of a unit counts each line on which functions or classes begin once. A comment
above such a line documents it when nothing but annotations and few bare lines stand between, so a
wider search finds every comment that a narrower one finds.
-/

namespace SourceGrade

namespace SourceLine

/-- Whether a line annotates the declaration below. -/
def annotates (l : SourceLine) : Bool :=
  Documentation.annotationMarks.any fun mark => Text.startsWith mark l.stripped

/-- Whether a line has neither code nor a comment. -/
def isBare (l : SourceLine) : Bool := !l.hasCode && Text.allBlank l.comment

end SourceLine

namespace Documentation

/-- Some lines lead down from a comment through annotations and bare lines, fewer bare ones than a
limit. -/
def EndInComment (lookback : Int) (above : List SourceLine) : Prop :=
  ∃ far c near, above = far ++ c :: near ∧ c.isCommentOnly = true ∧
    (∀ l ∈ near, l.annotates = true ∨ l.isBare = true) ∧
    (near.countP (·.isBare) : Int) < lookback

/-- The lines on which functions and classes begin. -/
def declarationLines (functions : List FunctionSpan) (classes : List ClassDeclaration) :
    Finset Nat :=
  (functions.map (·.startLine) ++ classes.map (·.line)).toFinset

/-- What is declared on a line: the function that begins there, or else the class. -/
def Declared (functions : List FunctionSpan) (classes : List ClassDeclaration)
    (name : Text) (line : Nat) : Prop :=
  (∃ f ∈ functions, f.name = name ∧ f.startLine = line) ∨
    (∃ c ∈ classes, c.name = name ∧ c.line = line) ∧ ∀ f ∈ functions, f.startLine ≠ line

end Documentation

namespace Proofs

open Documentation

/-! ### Lines above a declaration -/

lemma isBelow_iff {n : Nat} {limit : Int} :
    Comparable.isBelow (n : Int) limit = true ↔ n < limit := by
  change Comparison.holds .lt (compare (n : Int) limit) = true ↔ _
  rw [← Int.compare_eq_lt]
  cases compare (n : Int) limit <;> decide

lemma hasCode_of_annotates {l : SourceLine} (h : l.annotates = true) : l.hasCode = true := by
  obtain ⟨mark, hmark, hstarts⟩ := List.any_eq_true.mp h
  have hne : Text.strip l.code ≠ [] := by
    intro hnil
    rw [SourceLine.stripped, hnil] at hstarts
    revert mark
    decide
  obtain ⟨c, hc, hblank⟩ := exists_of_strip_ne_nil hne
  rw [SourceLine.hasCode, Text.allBlank, Bool.not_eq_true', List.all_eq_false]
  exact ⟨c, hc, by simp [hblank]⟩

lemma endInComment_pos {limit : Int} {above : List SourceLine} (h : EndInComment limit above) :
    0 < limit := by
  obtain ⟨-, -, near, -, -, -, hfew⟩ := h
  omega

lemma not_isCommentOnly_of_hasCode {l : SourceLine} (h : l.hasCode = true) :
    l.isCommentOnly = false := by
  rw [SourceLine.isCommentOnly, h]
  rfl

lemma not_isBare_of_hasCode {l : SourceLine} (h : l.hasCode = true) : l.isBare = false := by
  rw [SourceLine.isBare, h]
  rfl

lemma not_isBare_of_annotates {l : SourceLine} (h : l.annotates = true) :
    l.isBare = false :=
  not_isBare_of_hasCode (hasCode_of_annotates h)

lemma endInComment_concat {limit : Int} {above : List SourceLine} {l : SourceLine} :
    EndInComment limit (above ++ [l]) ↔ l.isCommentOnly = true ∧ 0 < limit ∨
      l.annotates = true ∧ EndInComment limit above ∨
      l.isBare = true ∧ EndInComment (limit - 1) above := by
  constructor
  · rintro ⟨far, c, near, heq, hc, hnear, hfew⟩
    rcases List.eq_nil_or_concat near with rfl | ⟨near, x, rfl⟩
    · obtain ⟨-, hl⟩ := List.append_inj' heq rfl
      obtain rfl := List.singleton_inj.mp hl
      exact .inl ⟨hc, hfew⟩
    · rw [List.concat_eq_append, ← List.cons_append, ← List.append_assoc] at heq
      obtain ⟨rfl, hl⟩ := List.append_inj' heq rfl
      obtain rfl := List.singleton_inj.mp hl
      rw [List.concat_eq_append, List.forall_mem_append, List.forall_mem_singleton] at hnear
      rw [List.concat_eq_append, List.countP_append, List.countP_singleton] at hfew
      obtain ⟨hnear, hannotates | hbare⟩ := hnear
      · rw [not_isBare_of_annotates hannotates] at hfew
        exact .inr (.inl ⟨hannotates, far, c, near, rfl, hc, hnear, hfew⟩)
      · rw [if_pos hbare] at hfew
        exact .inr (.inr ⟨hbare, far, c, near, rfl, hc, hnear, by omega⟩)
  · rintro (⟨hc, hpos⟩ | ⟨hannotates, far, c, near, rfl, hc, hnear, hfew⟩ |
      ⟨hbare, far, c, near, rfl, hc, hnear, hfew⟩)
    · exact ⟨above, l, [], rfl, hc, List.forall_mem_nil _, hpos⟩
    · refine ⟨far, c, near ++ [l], by simp, hc, ?_, ?_⟩
      · exact List.forall_mem_append.mpr ⟨hnear, List.forall_mem_singleton.mpr (.inl hannotates)⟩
      · rw [List.countP_append, List.countP_singleton, not_isBare_of_annotates hannotates]
        exact hfew
    · refine ⟨far, c, near ++ [l], by simp, hc, ?_, ?_⟩
      · exact List.forall_mem_append.mpr ⟨hnear, List.forall_mem_singleton.mpr (.inr hbare)⟩
      · rw [List.countP_append, List.countP_singleton, if_pos hbare]
        omega

lemma isBare_eq {l : SourceLine} (hcode : l.hasCode = false) : l.isBare = !l.isCommentOnly := by
  rw [SourceLine.isBare, SourceLine.isCommentOnly, hcode]
  simp

lemma leadsToComment_iff {lookback : Int} {passed : Nat} {above : List SourceLine} :
    leadsToComment lookback passed above.reverse = true ↔
      EndInComment (lookback - passed) above := by
  -- the nearest line is the last one above, so lines are taken off the end
  induction above using List.reverseRecOn generalizing passed with
  | nil => simp [leadsToComment, EndInComment]
  | append_singleton above l ih =>
    rw [List.reverse_concat, leadsToComment, endInComment_concat]
    by_cases hbelow : Comparable.isBelow (passed : Int) lookback = true
    · have hpos : 0 < lookback - passed := by
        have := isBelow_iff.mp hbelow
        omega
      rw [hbelow, Bool.not_true, if_neg Bool.false_ne_true]
      change (if l.annotates = true then _ else _) = true ↔ _
      by_cases hannotates : l.annotates = true
      · have hcode := hasCode_of_annotates hannotates
        rw [if_pos hannotates, ih]
        simp [hannotates, not_isCommentOnly_of_hasCode hcode, not_isBare_of_hasCode hcode]
      · rw [if_neg hannotates]
        by_cases hcode : l.hasCode = true
        · simp [hannotates, not_isCommentOnly_of_hasCode hcode, not_isBare_of_hasCode hcode, hcode]
        · rw [Bool.not_eq_true] at hcode
          have hnext : lookback - ((passed + 1 : Nat) : Int) = lookback - passed - 1 := by omega
          rw [isBare_eq hcode, hcode, if_neg Bool.false_ne_true, ← hnext]
          cases hcomment : l.isCommentOnly with
          | true => exact iff_of_true rfl (.inl ⟨rfl, hpos⟩)
          | false => simp [hannotates, ih]
    · have hlimit : lookback - passed ≤ 0 := by
        rw [isBelow_iff] at hbelow
        omega
      rw [Bool.not_eq_true] at hbelow
      rw [hbelow, Bool.not_false, if_pos rfl]
      refine iff_of_false Bool.false_ne_true ?_
      rintro (⟨-, hpos⟩ | ⟨-, hends⟩ | ⟨-, hends⟩)
      · omega
      · have := endInComment_pos hends
        omega
      · have := endInComment_pos hends
        omega

/-! ### Declarations -/

section

variable {functions : List FunctionSpan} {classes : List ClassDeclaration}

lemma mem_declared {x : Text × Nat} :
    x ∈ declared functions classes ↔ Declared functions classes x.1 x.2 := by
  have hshadowed : ∀ c : ClassDeclaration,
      ((functions.map fun f => (f.name, f.startLine)).any (·.2 == c.line)) = false ↔
        ∀ f ∈ functions, f.startLine ≠ c.line := by
    intro c
    simp
  obtain ⟨name, line⟩ := x
  rw [declared, (List.mergeSort_perm _ _).mem_iff, List.mem_append, List.mem_map, List.mem_map,
    Declared]
  refine or_congr ?_ ?_
  · simp only [Prod.mk.injEq]
  · simp only [Prod.mk.injEq, List.mem_filter, Bool.not_eq_true', hshadowed]
    constructor
    · rintro ⟨c, ⟨hc, hfree⟩, rfl, rfl⟩
      exact ⟨⟨c, hc, rfl, rfl⟩, hfree⟩
    · rintro ⟨⟨c, hc, rfl, rfl⟩, hfree⟩
      exact ⟨c, ⟨hc, hfree⟩, rfl, rfl⟩

lemma declared_pairwise (hfunctions : functions.Pairwise (·.startLine < ·.startLine))
    (hclasses : classes.Pairwise (·.line < ·.line)) :
    (declared functions classes).Pairwise (·.2 < ·.2) := by
  have hsorted : (declared functions classes).Pairwise fun x y => decide (x.2 ≤ y.2) = true := by
    refine List.pairwise_mergeSort (fun x y z h => ?_) (fun x y => ?_) _
    · simp only [decide_eq_true_iff] at h ⊢
      exact h.trans
    · simp only [Bool.or_eq_true, decide_eq_true_iff]
      exact Nat.le_total _ _
  have hdistinct : (declared functions classes).Pairwise (·.2 ≠ ·.2) := by
    rw [declared, (List.mergeSort_perm _ _).pairwise_iff fun h => h.symm, List.pairwise_append]
    refine ⟨List.pairwise_map.mpr (hfunctions.imp ne_of_lt), ?_, ?_⟩
    · exact List.pairwise_map.mpr ((hclasses.filter _).imp ne_of_lt)
    · intro x hx y hy heq
      obtain ⟨c, hc, rfl⟩ := List.mem_map.mp hy
      have hfree := (List.mem_filter.mp hc).2
      rw [Bool.not_eq_true', List.any_eq_false] at hfree
      exact hfree x hx (beq_iff_eq.mpr heq)
  refine (hsorted.and hdistinct).imp fun ⟨hle, hne⟩ => ?_
  exact lt_of_le_of_ne (decide_eq_true_iff.mp hle) hne

lemma declared_toFinset :
    ((declared functions classes).map (·.2)).toFinset = declarationLines functions classes := by
  ext line
  have hmem : (∃ x ∈ declared functions classes, x.2 = line) ↔
      ∃ name, Declared functions classes name line := by
    constructor
    · rintro ⟨x, hx, rfl⟩
      exact ⟨x.1, mem_declared.mp hx⟩
    · rintro ⟨name, hname⟩
      exact ⟨(name, line), mem_declared.mpr hname, rfl⟩
  rw [declarationLines, List.mem_toFinset, List.mem_toFinset, List.mem_map, hmem, List.mem_append,
    List.mem_map, List.mem_map]
  constructor
  · rintro ⟨name, ⟨f, hf, -, hline⟩ | ⟨⟨c, hc, -, hline⟩, -⟩⟩
    · exact .inl ⟨f, hf, hline⟩
    · exact .inr ⟨c, hc, hline⟩
  · intro hline
    by_cases hfunction : ∃ f ∈ functions, f.startLine = line
    · obtain ⟨f, hf, hstart⟩ := hfunction
      exact ⟨f.name, .inl ⟨f, hf, rfl, hstart⟩⟩
    · obtain ⟨c, hc, hclass⟩ := hline.resolve_left hfunction
      exact ⟨c.name, .inr ⟨⟨c, hc, rfl, hclass⟩, fun f hf heq => hfunction ⟨f, hf, heq⟩⟩⟩

end

/-! ### Texts -/

lemma ofText_classes_pairwise (l : Language) (text : Text) :
    (Source.ofText l text).classes.Pairwise (·.line < ·.line) := by
  refine List.Pairwise.filterMap _ (fun x y hlt c hc d hd => ?_)
    ((ofText_pairwise l text).filter _)
  obtain ⟨m, -, rfl⟩ := Option.map_eq_some_iff.mp hc
  obtain ⟨m', -, rfl⟩ := Option.map_eq_some_iff.mp hd
  exact hlt

lemma documented_add_undocumented {ι : Type} [Comparable ι] (s : Source)
    (functions : List FunctionSpan) (classes : List ClassDeclaration) (lookback : ι) :
    let found := Documentation.ofSource s functions classes lookback
    found.documented =
        (declared functions classes).countP (fun d => isDocumented s lookback d.2) ∧
      found.declarations = found.documented + found.undocumented.length := by
  intro found
  have hcount := List.length_eq_countP_add_countP (fun d => isDocumented s lookback d.2)
    (l := declared functions classes)
  have hundocumented : found.undocumented.length =
      (declared functions classes).countP (fun d => !isDocumented s lookback d.2) :=
    List.countP_eq_length_filter.symm
  have hdocumented : found.documented = found.declarations - found.undocumented.length := rfl
  have hdeclarations : found.declarations = (declared functions classes).length := rfl
  simp only [Bool.not_eq_true, ← Bool.not_eq_true', Bool.decide_eq_true] at hcount
  omega

lemma card_filter_lines {xs : List (Text × Nat)} (h : xs.Pairwise (·.2 < ·.2)) (p : Nat → Bool) :
    xs.countP (fun x => p x.2) = ((xs.map (·.2)).toFinset.filter (p · = true)).card := by
  have hnodup : ((xs.map (·.2)).filter p).Nodup :=
    ((List.pairwise_map.mpr h).imp ne_of_lt).filter _
  rw [← List.toFinset_filter, List.toFinset_card_of_nodup hnodup, ← List.countP_eq_length_filter,
    List.countP_map]
  rfl

lemma hasLeadingComment_iff {s : Source} {lookback : Int} {line : Nat} :
    hasLeadingComment s lookback line = true ↔
      EndInComment lookback (s.lines.take (line - 1)) := by
  rw [hasLeadingComment, leadsToComment_iff, Nat.cast_zero, sub_zero]

lemma EndInComment.mono {limit limit' : Int} {above : List SourceLine} (hle : limit ≤ limit') :
    EndInComment limit above → EndInComment limit' above := by
  rintro ⟨far, c, near, habove, hc, hnear, hfew⟩
  exact ⟨far, c, near, habove, hc, hnear, hfew.trans_le hle⟩

/-- The documentation of a text counts each line on which functions or classes begin once, and
tells the declarations on lines without documentation, in order. A comment above a line counts
exactly if only annotations and fewer bare lines than the limit stand between, so a higher limit
finds all that a lower one finds. -/
theorem ofText_documentation_lines (l : Language) (text : Text) :
    let s := Source.ofText l text
    let lines := declarationLines s.functions s.classes
    (∀ lookback : Int,
      let found := Documentation.ofSource s s.functions s.classes lookback
      found.declarations = lines.card ∧
        found.documented = (lines.filter fun line => isDocumented s lookback line = true).card ∧
        found.declarations = found.documented + found.undocumented.length ∧
        found.undocumented.Pairwise (·.2 < ·.2) ∧
        ∀ x, x ∈ found.undocumented ↔
          Declared s.functions s.classes x.1 x.2 ∧ isDocumented s lookback x.2 = false) ∧
      (∀ (lookback : Int) (line : Nat), hasLeadingComment s lookback line = true ↔
        EndInComment lookback (s.lines.take (line - 1))) ∧
      ∀ (lookback lookback' : Int) (line : Nat), lookback ≤ lookback' →
        isDocumented s lookback line = true → isDocumented s lookback' line = true := by
  intro s lines
  have hpairwise : (declared s.functions s.classes).Pairwise (·.2 < ·.2) :=
    declared_pairwise (functionsFrom_pairwise s.language (ofText_pairwise l text))
      (ofText_classes_pairwise l text)
  refine ⟨fun lookback => ?_, fun lookback line => hasLeadingComment_iff, ?_⟩
  · intro found
    obtain ⟨hdocumented, hsum⟩ := documented_add_undocumented s s.functions s.classes lookback
    have hcard : found.declarations = lines.card := by
      have hnodup := (List.pairwise_map.mpr hpairwise).imp ne_of_lt
      change _ = (declarationLines s.functions s.classes).card
      rw [← declared_toFinset, List.toFinset_card_of_nodup hnodup, List.length_map]
      rfl
    refine ⟨hcard, ?_, hsum, hpairwise.filter _, fun x => ?_⟩
    · change found.documented = ((declarationLines s.functions s.classes).filter _).card
      rw [← declared_toFinset, ← card_filter_lines hpairwise]
      exact hdocumented
    · change x ∈ (declared s.functions s.classes).filter _ ↔ _
      rw [List.mem_filter, mem_declared, Bool.not_eq_true']
  · intro lookback lookback' line hle hdocumented
    rw [isDocumented, Bool.or_eq_true, hasLeadingComment_iff] at hdocumented ⊢
    exact hdocumented.imp_left (EndInComment.mono hle)

/-- A method under a comment and an annotation, and one under a comment and two bare lines. -/
def annotatedText : Text :=
  "/** Runs. */\n@Override\nvoid run() \x7b\n\x7d\n// Stops.\n\n\nvoid stop() \x7b\n\x7d"

/-- The comment over two bare lines is found with a limit of three, and so with any higher one. -/
theorem ofText_documentation_lines_annotated :
    let s := Source.ofText Language.java annotatedText
    (Documentation.ofSource s s.functions s.classes (2 : Int)).declarations = 2 ∧
      isDocumented s (1 : Int) 3 = true ∧ isDocumented s (2 : Int) 8 = false ∧
      isDocumented s (3 : Int) 8 = true ∧ isDocumented s (12 : Int) 8 = true := by
  intro s
  obtain ⟨hcounts, -, hmono⟩ := ofText_documentation_lines Language.java annotatedText
  have hlines : (declarationLines s.functions s.classes).card = 2 := by decide +kernel
  have hfound : isDocumented s (3 : Int) 8 = true := by decide +kernel
  exact ⟨(hcounts 2).1.trans hlines, by decide +kernel, by decide +kernel, hfound,
    hmono 3 12 8 (by decide) hfound⟩

end Proofs

end SourceGrade
