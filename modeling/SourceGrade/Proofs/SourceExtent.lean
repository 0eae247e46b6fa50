import Mathlib.Algebra.Order.Group.Nat
import SourceGrade.Measure.Complexity
import SourceGrade.Measure.Size
import SourceGrade.Proofs.MatchExtent
import SourceGrade.Proofs.SourceLines
import SourceGrade.Proofs.StrippedTexts

/-!
# The extent of a source unit

The code of a source unit has no more characters than its text, line ends included. Its lines, its
declarations and their parameters are therefore no more than the characters of the text and one.
-/

namespace SourceGrade.Proofs

/-- The items of some lists, one more for each list. -/
def extentOf {β : Type} (parts : List (List β)) : Nat :=
  Listing.total (parts.map fun part => part.length + 1)

/-- The characters of the code of some lines, one more for each line. -/
def extent (lines : List SourceLine) : Nat := extentOf (lines.map (·.code))

/-! ### Parts of a source unit -/

lemma extentOf_cons {β : Type} (part : List β) (parts : List (List β)) :
    extentOf (part :: parts) = part.length + 1 + extentOf parts := rfl

lemma extent_cons (l : SourceLine) (ls : List SourceLine) :
    extent (l :: ls) = l.code.length + 1 + extent ls := rfl

lemma extent_sublist {ls ls' : List SourceLine} (h : ls.Sublist ls') : extent ls ≤ extent ls' := by
  induction h with
  | slnil => exact le_rfl
  | cons l _ ih =>
    rw [extent_cons]
    exact ih.trans (Nat.le_add_left _ _)
  | cons_cons l _ ih =>
    rw [extent_cons, extent_cons]
    exact Nat.add_le_add_left ih _

lemma length_le_extent (ls : List SourceLine) : ls.length ≤ extent ls := by
  induction ls with
  | nil => exact Nat.zero_le _
  | cons l ls ih =>
    rw [extent_cons, List.length_cons]
    omega

lemma labelledLines_extent (x : List (Char × Part)) :
    extentOf (labelledLines x) = x.length + 1 := by
  induction x with
  | nil => rfl
  | cons y x ih =>
    obtain ⟨c, part⟩ := y
    rw [labelledLines, List.length_cons]
    split
    · rw [extentOf_cons, ih, List.length_nil]
      omega
    · cases hx : labelledLines x with
      | nil =>
        rw [hx] at ih
        cases ih
      | cons w ws =>
        rw [hx, extentOf_cons] at ih
        rw [extentOf_cons, List.length_cons]
        omega

lemma ofLabelled_code_le (n : Nat) (w : List (Char × Part)) :
    (SourceLine.ofLabelled n w).code.length ≤ w.length := by
  calc (Text.stripRight (charsOf .code w)).length ≤ (charsOf .code w).length :=
        stripRight_length_le _
    _ ≤ w.length := by
      rw [charsOf, List.length_map]
      exact List.length_filter_le _ _

lemma extent_numberFrom (n : Nat) (ws : List (List (Char × Part))) :
    extent (Source.numberFrom n ws) ≤ extentOf ws := by
  induction ws generalizing n with
  | nil => exact le_rfl
  | cons w ws ih =>
    rw [Source.numberFrom, extent_cons, extentOf_cons]
    exact Nat.add_le_add (Nat.succ_le_succ (ofLabelled_code_le n w)) (ih (n + 1))

lemma normalize_length_le (t : Text) : (Source.normalize t).length ≤ t.length := by
  have hunify : (Text.unifyLineEnds t).length ≤ t.length := by
    induction t using Text.unifyLineEnds.induct with
    | case1 => exact le_rfl
    | case2 r ih => simpa [Text.unifyLineEnds] using ih.trans (Nat.le_succ _)
    | case3 r hr ih => simpa [Text.unifyLineEnds] using ih
    | case4 c r h₁ h₂ ih => simpa [Text.unifyLineEnds] using ih
  have hdrop : ∀ u : Text, (Source.dropFinalLineFeed u).length ≤ u.length := by
    intro u
    induction u using Source.dropFinalLineFeed.induct with
    | case1 => exact le_rfl
    | case2 => simp [Source.dropFinalLineFeed]
    | case3 c r hr ih => simpa [Source.dropFinalLineFeed] using ih
  exact (hdrop _).trans hunify

/-- The code of a source unit is no longer than its text, a line end after the last line
included. -/
theorem extent_ofText (l : Language) (t : Text) :
    extent (Source.ofText l t).lines ≤ t.length + 1 := by
  cases t with
  | nil => exact Nat.zero_le _
  | cons c r =>
    have hzip : ((Source.normalize (c :: r)).zip (l.scan (Source.normalize (c :: r)))).length ≤
        (c :: r).length := by
      rw [List.length_zip]
      exact (Nat.min_le_left _ _).trans (normalize_length_le _)
    calc extent (Source.ofText l (c :: r)).lines
        ≤ _ := extent_numberFrom 1 _
      _ = _ := labelledLines_extent _
      _ ≤ (c :: r).length + 1 := Nat.succ_le_succ hzip

/-! ### Parameter lists -/

lemma split_length_le (t : Text) : (Parameters.split t).length ≤ t.length + 1 := by
  suffices hfrom : ∀ depth, (Parameters.splitFrom depth t).length ≤ t.length + 1 from hfrom 0
  induction t with
  | nil => simp [Parameters.splitFrom]
  | cons c r ih =>
    intro depth
    rw [Parameters.splitFrom]
    split
    · simpa using ih _
    · split
      · simp
      · next p ps hr =>
        have := ih (Parameters.depthAfter depth c)
        rw [hr] at this
        simp only [List.length_cons] at this ⊢
        omega

lemma nullable_length_le (l : Language) (t : Text) :
    (Parameters.nullable l t).length ≤ t.length + 1 := by
  calc (Parameters.nullable l t).length ≤ (Parameters.pieces l t).length := by
        rw [Parameters.nullable, List.length_map]
        exact List.length_filter_le _ _
    _ ≤ ((Parameters.split t).filterMap (Parameters.Piece.ofText? l.namePosition)).length :=
      List.length_filter_le _ _
    _ ≤ (Parameters.split t).length := List.length_filterMap_le _ _
    _ ≤ t.length + 1 := split_length_le t

lemma join_length_lt (c : Char) (u : Text) (us : List Text) :
    (Text.join [c] (u :: us)).length < extentOf (u :: us) := by
  induction us generalizing u with
  | nil => exact Nat.lt_succ_self u.length
  | cons v us ih =>
    have hrest := ih v
    rw [extentOf_cons, Text.join, List.length_append, List.length_append, List.length_singleton]
    omega

lemma parameterTail_extent (ls : List SourceLine) :
    extentOf (parameterTail ls) ≤ extent ls := by
  induction ls with
  | nil => exact le_rfl
  | cons l ls ih =>
    rw [parameterTail, extent_cons]
    split
    · have := (List.takeWhile_sublist (· != ')') (l := l.code)).length_le
      change List.length _ + 1 + 0 ≤ _
      omega
    · rw [extentOf_cons]
      omega

lemma parameterText_length_lt (shape : Pattern) (l : SourceLine) (ls : List SourceLine) {m : Match}
    (hm : shape.search l.code = some m) :
    (parameterText l.code m ls).length < extent (l :: ls) := by
  rw [extent_cons]
  unfold parameterText
  split
  · rw [List.length_nil]
    omega
  · next c hc =>
    split
    · have hcapture := search_captures shape hm c (List.mem_of_find?_eq_some hc)
      have := hcapture.length_text_le
      omega
    · have hjoin := join_length_lt ',' (l.code.drop c.start)
        (parameterTail (ls.take maxParameterLines))
      have htail := (parameterTail_extent (ls.take maxParameterLines)).trans
        (extent_sublist (List.take_sublist _ ls))
      have hdrop : (l.code.drop c.start).length ≤ l.code.length := by simp
      rw [extentOf_cons] at hjoin
      exact hjoin.trans_le (by omega)

/-! ### Declarations -/

lemma functionOf?_cases {language : Language} {d : SourceLine} {rest : List SourceLine}
    {shape : Pattern} {f : FunctionSpan} (h : Source.functionOf? language d rest shape = some f) :
    ∃ m last, shape.search d.code = some m ∧
      Extent.end? language.blockStyle m.start (d :: rest) = some last ∧
      f = ⟨m.textOf .name, d.number, last,
        Parameters.names language (parameterText d.code m rest),
        Parameters.nullable language (parameterText d.code m rest)⟩ := by
  obtain ⟨m, hm, h⟩ := Option.bind_eq_some_iff.mp h
  dsimp only at h
  split at h
  · cases h
  · obtain ⟨last, hlast, h⟩ := Option.bind_eq_some_iff.mp h
    exact ⟨m, last, hm, hlast, (Option.some.inj h).symm⟩

lemma functionOf?_eq_some {language : Language} {l : SourceLine} {ls : List SourceLine}
    {shape : Pattern} {f : FunctionSpan} (h : Source.functionOf? language l ls shape = some f) :
    f.startLine = l.number ∧ f.nullableParameters.length ≤ extent (l :: ls) := by
  obtain ⟨m, last, hm, -, rfl⟩ := functionOf?_cases h
  exact ⟨rfl, (nullable_length_le language _).trans (parameterText_length_lt shape l ls hm)⟩

lemma exists_declaration {language : Language} {ls : List SourceLine} {f : FunctionSpan}
    (hf : f ∈ Source.functionsFrom language ls) :
    ∃ before d rest, ls = before ++ d :: rest ∧ d.hasCode = true ∧
      ∃ earlier shape later, language.functions = earlier ++ shape :: later ∧
        (∀ p ∈ earlier, Source.functionOf? language d rest p = none) ∧
        Source.functionOf? language d rest shape = some f := by
  induction ls with
  | nil => cases hf
  | cons l ls ih =>
    rw [Source.functionsFrom, List.mem_append] at hf
    obtain hf | hf := hf
    · split at hf
      · next hcode =>
        rw [Option.mem_toList, List.findSome?_eq_some_iff] at hf
        obtain ⟨earlier, shape, later, hshapes, hfunction, hearlier⟩ := hf
        exact ⟨[], l, ls, rfl, hcode, earlier, shape, later, hshapes, hearlier, hfunction⟩
      · cases hf
    · obtain ⟨before, d, rest, rfl, hdeclared⟩ := ih hf
      exact ⟨l :: before, d, rest, rfl, hdeclared⟩

lemma exists_functionOf? {language : Language} {ls : List SourceLine} {f : FunctionSpan}
    (hf : f ∈ Source.functionsFrom language ls) :
    ∃ before d rest, ls = before ++ d :: rest ∧ ∃ shape ∈ language.functions,
      Source.functionOf? language d rest shape = some f := by
  obtain ⟨before, d, rest, hls, -, earlier, shape, later, hshapes, -, hshape⟩ :=
    exists_declaration hf
  exact ⟨before, d, rest, hls, shape, by simp [hshapes], hshape⟩

lemma mem_functionsFrom {language : Language} {ls : List SourceLine} {f : FunctionSpan}
    (hf : f ∈ Source.functionsFrom language ls) :
    (∃ l ∈ ls, f.startLine = l.number) ∧ f.nullableParameters.length ≤ extent ls := by
  obtain ⟨before, d, rest, rfl, shape, -, hshape⟩ := exists_functionOf? hf
  obtain ⟨hstart, hparameters⟩ := functionOf?_eq_some hshape
  exact ⟨⟨d, List.mem_append_right before List.mem_cons_self, hstart⟩,
    hparameters.trans (extent_sublist (List.sublist_append_right before _))⟩

lemma functionsFrom_length_le (language : Language) (ls : List SourceLine) :
    (Source.functionsFrom language ls).length ≤ ls.length := by
  induction ls with
  | nil => exact le_rfl
  | cons l ls ih =>
    have hfirst : (if l.hasCode then
        (language.functions.findSome? (Source.functionOf? language l ls)).toList
        else []).length ≤ 1 := by
      split
      · exact Option.length_toList_le
      · exact Nat.zero_le 1
    rw [Source.functionsFrom, List.length_append, List.length_cons]
    omega

lemma classes_length_le (s : Source) : s.classes.length ≤ s.lines.length :=
  (List.length_filterMap_le _ _).trans (List.length_filter_le _ _)

/-! ### Decision points -/

lemma decisionsOn_le (decisions : List Pattern) (code : Text) :
    Complexity.decisionsOn decisions code ≤ decisions.length * (code.length + 1) := by
  induction decisions with
  | nil => exact Nat.zero_le _
  | cons p ps ih =>
    rw [List.length_cons, Nat.succ_mul, Nat.add_comm]
    exact Nat.add_le_add (length_all_le p code) ih

lemma decisionPoints_le (decisions : List Pattern) (ls : List SourceLine) :
    Complexity.decisionPoints decisions ls ≤ decisions.length * extent ls := by
  induction ls with
  | nil => exact Nat.zero_le _
  | cons l ls ih =>
    have hline : (if l.hasCode then Complexity.decisionsOn decisions l.code else 0) ≤
        decisions.length * (l.code.length + 1) := by
      split
      · exact decisionsOn_le decisions l.code
      · exact Nat.zero_le _
    rw [extent_cons, Nat.mul_add]
    exact Nat.add_le_add hline ih

lemma table_decisions : ∀ l ∈ Language.table, l.decisions.length ≤ 16 := by decide

end SourceGrade.Proofs
