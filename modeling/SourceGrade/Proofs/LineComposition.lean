import SourceGrade.Measure.Complexity
import SourceGrade.Measure.Size
import SourceGrade.Proofs.SourceLines

/-!
# Texts one after the other

The lines of two texts with a line feed between them are the lines of the one and then the lines of
the other, provided that the first text leaves no comment and no string open. No mark, no escape and
no directive is looked for beyond the end of a line, so the scan of the first text is not aware of
the second, and the line end puts the scanner back into its first state.
-/

namespace SourceGrade

/-! ### Patterns within a line -/

/-- The place with another line after the text. -/
def Place.withLine (y : Text) (s : Place) : Place := { s with after := s.after ++ '\n' :: y }

/-- A pattern of characters that are not line feeds, with word edges between them. -/
def Pattern.withinLine : Pattern → Bool
  | .empty | .wordEdge => true
  | .one accepts => !accepts '\n'
  | .seq p q | .alt p q => p.withinLine && q.withinLine
  | _ => false

namespace Proofs

lemma atWordEdge_withLine (y : Text) (s : Place) : (s.withLine y).atWordEdge = s.atWordEdge := by
  have hfeed : Text.isWordChar '\n' = false := by decide
  obtain ⟨before, after, index, captures⟩ := s
  cases after with
  | nil => simp [Place.withLine, Place.atWordEdge, hfeed]
  | cons c r => simp [Place.withLine, Place.atWordEdge]

lemma run_withLine (y : Text) (p : Pattern) (hp : p.withinLine = true) (s : Place)
    (next next' : Place → Option Place)
    (hnext : ∀ s, (next' (s.withLine y)).isSome = (next s).isSome) :
    (p.run (s.withLine y) next').isSome = (p.run s next).isSome := by
  induction p generalizing s next next' with
  | empty => exact hnext s
  | wordEdge =>
    rw [Pattern.run, Pattern.run, atWordEdge_withLine]
    split
    · exact hnext s
    · rfl
  | one accepts =>
    have hfeed : accepts '\n' = false := by simpa [Pattern.withinLine] using hp
    obtain ⟨before, after, index, captures⟩ := s
    cases after with
    | nil => simp [Pattern.run, Place.withLine, hfeed]
    | cons c r =>
      by_cases hc : accepts c = true
      · simpa [Pattern.run, Place.withLine, hc] using hnext ⟨c :: before, r, index + 1, captures⟩
      · simp [Pattern.run, Place.withLine, hc]
  | seq p q ihp ihq =>
    obtain ⟨hp, hq⟩ := Bool.and_eq_true_iff.mp hp
    exact ihp hp s _ _ fun s' => ihq hq s' _ _ hnext
  | alt p q ihp ihq =>
    obtain ⟨hp, hq⟩ := Bool.and_eq_true_iff.mp hp
    have hleft := ihp hp s _ _ hnext
    have hright := ihq hq s _ _ hnext
    rw [Pattern.run, Pattern.run]
    cases hx : p.run s next with
    | none =>
      rw [hx, Option.isSome_none, Option.isSome_eq_false_iff, Option.isNone_iff_eq_none] at hleft
      rw [hleft]
      exact hright
    | some found =>
      rw [hx, Option.isSome_some] at hleft
      obtain ⟨found', hfound'⟩ := Option.isSome_iff_exists.mp hleft
      rw [hfound']
      rfl
  | _ => simp [Pattern.withinLine] at hp

lemma directive_append_lineEnd (x y : Text) :
    (directive.matchStart (x ++ '\n' :: y)).isSome = (directive.matchStart x).isSome := by
  have hdirective : directive.withinLine = true := by decide
  unfold Pattern.matchStart Pattern.matchAt
  rw [Option.isSome_map, Option.isSome_map]
  exact run_withLine y directive hdirective (.ofText x) some some fun _ => rfl

/-! ### The scan up to a line end -/

lemma findSome?_congr {α β : Type} {f g : α → Option β} {xs : List α}
    (h : ∀ x ∈ xs, f x = g x) : xs.findSome? f = xs.findSome? g := by
  induction xs with
  | nil => rfl
  | cons x xs ih =>
    rw [List.findSome?_cons, List.findSome?_cons, h x List.mem_cons_self,
      ih fun y hy => h y (List.mem_cons_of_mem x hy)]

lemma scanStep_append_lineEnd {l : Language} (hl : WellMarked l) (s : ScanState)
    (hm : ModeOf l s.mode) (c : Char) (r y : Text) :
    l.scanStep s c (r ++ '\n' :: y) = l.scanStep s c r := by
  have hblocks : l.blockCommentAt? (c :: (r ++ '\n' :: y)) = l.blockCommentAt? (c :: r) := by
    unfold Language.blockCommentAt?
    apply findSome?_congr
    rintro ⟨opening, ending⟩ hb
    dsimp only
    rw [← List.cons_append, startsWith_append_lineEnd opening (c :: r) y (hl.blocks _ hb).1]
  have hdirective : ∀ flag, l.directiveAt flag (c :: (r ++ '\n' :: y)) =
      l.directiveAt flag (c :: r) := by
    intro flag
    unfold Language.directiveAt
    rw [← List.cons_append, startsWith_append_lineEnd _ (c :: r) y hl.directive,
      directive_append_lineEnd]
  have hlines : ∀ flag, l.lineCommentAt? flag (c :: (r ++ '\n' :: y)) =
      l.lineCommentAt? flag (c :: r) := by
    intro flag
    unfold Language.lineCommentAt?
    apply findSome?_congr
    intro mark hmark
    rw [hdirective, ← List.cons_append, startsWith_append_lineEnd mark (c :: r) y
      (hl.lines mark hmark)]
  have hhead : (r ++ '\n' :: y).head?.any (· != '\n') = r.head?.any (· != '\n') := by
    cases r <;> simp
  obtain ⟨mode, flag⟩ := s
  unfold Language.scanStep
  cases mode with
  | lineComment => rfl
  | blockComment ending =>
    obtain ⟨b, hb, rfl⟩ := hm
    dsimp only
    rw [← List.cons_append, startsWith_append_lineEnd b.2 (c :: r) y (hl.blocks b hb).2]
  | string d =>
    dsimp only
    rw [hhead]
  | code =>
    dsimp only
    rw [hblocks, hlines]

lemma length_le_of_lineEnd_not_mem_take {r y : Text} {skip : Nat}
    (h : '\n' ∉ (r ++ '\n' :: y).take skip) : skip ≤ r.length := by
  by_contra hlt
  apply h
  rw [List.mem_take_iff_getElem]
  exact ⟨r.length, by simp; omega, by simp⟩

/-- The labels of a text are those it has without the lines after it, and the labels of these lines
start from where the scanner is after the line end. -/
lemma labelled_append_lineEnd {l : Language} (hl : WellMarked l) (a : Scanner)
    (hm : ModeOf l a.mode) (skip : Nat) (x y : Text) (hskip : skip ≤ x.length) :
    labelled l a.state skip (x ++ '\n' :: y) =
      labelled l a.state skip x ++ ('\n', .lineEnd) ::
        labelled l ⟨l.modeAfterLine (a.run l skip x).mode, false⟩ 0 y := by
  induction x generalizing a skip with
  | nil =>
    obtain rfl : skip = 0 := Nat.le_zero.mp hskip
    rfl
  | cons c r ih =>
    cases skip with
    | succ skip =>
      rw [List.cons_append, labelled_skip, labelled_skip, List.cons_append, Scanner.run,
        ih a hm skip (Nat.le_of_succ_le_succ hskip)]
    | zero =>
      have hstep := scanStep_append_lineEnd hl a.state hm c r y
      have hle : (l.scanStep a.state c r).2.1 ≤ r.length := by
        rw [← hstep]
        exact length_le_of_lineEnd_not_mem_take
          ((scanStep_move l a.state c (r ++ '\n' :: y)).lineEnd_not_mem_take hl hm)
      have hrest := ih (a.move l c r).1 (Scanner.move_modeOf a hm c r) _ hle
      rw [Scanner.move_state hl a hm] at hrest
      rw [List.cons_append, labelled_step, labelled_step, hstep, hrest, List.cons_append,
        Scanner.run]
      rfl

lemma labelledLines_append_lineEnd (w w' : List (Char × Part)) (c : Char) :
    labelledLines (w ++ (c, .lineEnd) :: w') = labelledLines w ++ labelledLines w' := by
  induction w with
  | nil => rw [List.nil_append, labelledLines_lineEnd]; rfl
  | cons x w ih =>
    obtain ⟨d, part⟩ := x
    rw [List.cons_append]
    by_cases hp : part = .lineEnd
    · rw [hp, labelledLines_lineEnd, labelledLines_lineEnd, ih, List.cons_append]
    · obtain ⟨z, zs, hz⟩ := List.exists_cons_of_ne_nil (labelledLines_ne_nil w)
      rw [labelledLines_cons d hp, labelledLines_cons d hp, ih, hz]
      rfl

lemma linesOf_append {l : Language} (hl : WellMarked l) (x y : Text)
    (hend : l.modeAfterLine (Scanner.start.run l 0 x).mode = .code) :
    linesOf l (x ++ '\n' :: y) = linesOf l x ++ linesOf l y := by
  have h := labelled_append_lineEnd hl Scanner.start (start_modeOf l) 0 x y (Nat.zero_le _)
  rw [hend] at h
  have hlines := congrArg labelledLines h
  rwa [labelledLines_append_lineEnd] at hlines

/-! ### Normalized texts with a line feed between them -/

lemma unifyLineEnds_eq_nil (t : Text) : Text.unifyLineEnds t = [] ↔ t = [] := by
  constructor
  · intro h
    induction t using Text.unifyLineEnds.induct with
    | case1 => rfl
    | case2 r => simp [Text.unifyLineEnds] at h
    | case3 r hr =>
      rw [Text.unifyLineEnds] at h
      · cases h
      · exact hr
    | case4 c r h₁ h₂ =>
      rw [Text.unifyLineEnds] at h
      · cases h
      · exact h₁
      · exact h₂
  · rintro rfl
    rfl

lemma unifyLineEnds_append (x y : Text) (hx : x.getLast? ≠ some '\r') :
    Text.unifyLineEnds (x ++ '\n' :: y) = Text.unifyLineEnds x ++ '\n' :: Text.unifyLineEnds y := by
  have hfeed : ∀ r, Text.unifyLineEnds ('\n' :: r) = '\n' :: Text.unifyLineEnds r := by
    intro r
    rw [Text.unifyLineEnds] <;> simp
  induction x using Text.unifyLineEnds.induct with
  | case1 => exact hfeed y
  | case2 r ih =>
    have hr : r.getLast? ≠ some '\r' := by
      cases r with
      | nil => simp
      | cons c r => simpa using hx
    simp only [List.cons_append, Text.unifyLineEnds, ih hr]
  | case3 r hr ih =>
    cases r with
    | nil => simp at hx
    | cons c r =>
      have hc : c ≠ '\n' := fun h => hr r (by rw [h])
      have ih := ih (by simpa using hx)
      rw [List.cons_append, Text.unifyLineEnds, ih, Text.unifyLineEnds]
      · rfl
      · exact hr
      · intro r' h
        exact hc (List.cons.inj h).1
  | case4 c r h₁ h₂ ih =>
    have hr : r.getLast? ≠ some '\r' := by
      cases r with
      | nil => simp
      | cons d r => simpa using hx
    have hc : c ≠ '\r' := h₂
    rw [List.cons_append, Text.unifyLineEnds, ih hr, Text.unifyLineEnds]
    · rfl
    all_goals simp [hc]

lemma unifyLineEnds_getLast? (x : Text) (hn : x.getLast? ≠ some '\n')
    (hr : x.getLast? ≠ some '\r') : (Text.unifyLineEnds x).getLast? ≠ some '\n' := by
  induction x using Text.unifyLineEnds.induct with
  | case1 => simp [Text.unifyLineEnds]
  | case2 r ih =>
    cases r with
    | nil => simp at hn
    | cons c r =>
      obtain ⟨d, u, hu⟩ := List.exists_cons_of_ne_nil
        (mt (unifyLineEnds_eq_nil (c :: r)).mp (List.cons_ne_nil c r))
      have ih := ih (by simpa using hn) (by simpa using hr)
      rw [Text.unifyLineEnds, hu, List.getLast?_cons_cons]
      rwa [hu] at ih
  | case3 r hfeed ih =>
    cases r with
    | nil => simp at hr
    | cons c r =>
      obtain ⟨d, u, hu⟩ := List.exists_cons_of_ne_nil
        (mt (unifyLineEnds_eq_nil (c :: r)).mp (List.cons_ne_nil c r))
      have ih := ih (by simpa using hn) (by simpa using hr)
      rw [Text.unifyLineEnds, hu, List.getLast?_cons_cons]
      · rwa [hu] at ih
      · exact hfeed
  | case4 c r h₁ h₂ ih =>
    rw [Text.unifyLineEnds]
    · cases r with
      | nil => simpa [Text.unifyLineEnds] using hn
      | cons d r =>
        obtain ⟨e, u, hu⟩ := List.exists_cons_of_ne_nil
          (mt (unifyLineEnds_eq_nil (d :: r)).mp (List.cons_ne_nil d r))
        have ih := ih (by simpa using hn) (by simpa using hr)
        rw [hu, List.getLast?_cons_cons]
        rwa [hu] at ih
    · exact h₁
    · exact h₂

lemma dropFinalLineFeed_append_cons (x : Text) (c : Char) (r : Text) :
    Source.dropFinalLineFeed (x ++ c :: r) = x ++ Source.dropFinalLineFeed (c :: r) := by
  induction x with
  | nil => rfl
  | cons d x ih =>
    rw [List.cons_append, Source.dropFinalLineFeed, ih, List.cons_append]
    simp

lemma normalize_append (x y : Text) (hn : x.getLast? ≠ some '\n') (hr : x.getLast? ≠ some '\r')
    (hy : y ≠ []) :
    Source.normalize (x ++ '\n' :: y) = Source.normalize x ++ '\n' :: Source.normalize y := by
  unfold Source.normalize
  obtain ⟨c, u, hu⟩ := List.exists_cons_of_ne_nil (mt (unifyLineEnds_eq_nil y).mp hy)
  rw [unifyLineEnds_append x y hr, hu,
    dropFinalLineFeed_of_getLast? _ (unifyLineEnds_getLast? x hn hr), List.append_cons,
    dropFinalLineFeed_append_cons, ← List.append_cons]

/-! ### The lines of both texts -/

lemma listingTotal_append (xs ys : List Nat) :
    Listing.total (xs ++ ys) = Listing.total xs + Listing.total ys :=
  List.sum_append

lemma decisionPoints_append (decisions : List Pattern) (xs ys : List SourceLine) :
    Complexity.decisionPoints decisions (xs ++ ys) =
      Complexity.decisionPoints decisions xs + Complexity.decisionPoints decisions ys := by
  unfold Complexity.decisionPoints
  rw [List.map_append, listingTotal_append]

/-- The line with a number that is larger by a count of lines before it. -/
def renumber (before : Nat) (line : SourceLine) : SourceLine :=
  { line with number := before + line.number }

/-- The lines of a text, a line feed and another text are those of the first text and then, with
larger numbers, those of the second, when the first text does not end with a line end and the scan
of it ends neither in a block comment nor in a string that may go on in the next line. So
complexity, lines of code and lines with comments are those of both texts together. -/
theorem ofText_lines_append (l : Language) (hl : l ∈ Language.table) (A B : Text) (hA : A ≠ [])
    (hB : B ≠ []) (hfeed : A.getLast? ≠ some '\n') (hreturn : A.getLast? ≠ some '\r')
    (hblock : ∀ ending, (Scanner.start.run l 0 (Source.normalize A)).mode ≠ .blockComment ending)
    (hstring : ∀ d ∈ l.multilineDelimiters,
      (Scanner.start.run l 0 (Source.normalize A)).mode ≠ .string d) :
    let a := Source.ofText l A
    let b := Source.ofText l B
    let ab := Source.ofText l (A ++ '\n' :: B)
    ab.lines = a.lines ++ b.lines.map (renumber a.lines.length) ∧
      ((Complexity.ofSource ab ab.functions).total - 1 : Int) =
        ((Complexity.ofSource a a.functions).total - 1) +
          ((Complexity.ofSource b b.functions).total - 1) ∧
      (Size.ofSource ab).linesOfCode =
        (Size.ofSource a).linesOfCode + (Size.ofSource b).linesOfCode ∧
      (Size.ofSource ab).commentLines =
        (Size.ofSource a).commentLines + (Size.ofSource b).commentLines := by
  intro a b ab
  have hmarked := table_wellMarked l hl
  have hend : l.modeAfterLine (Scanner.start.run l 0 (Source.normalize A)).mode = .code := by
    cases hmode : (Scanner.start.run l 0 (Source.normalize A)).mode with
    | code => rfl
    | lineComment => rfl
    | blockComment ending => exact absurd hmode (hblock ending)
    | string d =>
      have hd : d ∉ l.multilineDelimiters := fun hd => hstring d hd hmode
      simp [Language.modeAfterLine, hd]
  have hlines : ab.lines = a.lines ++ b.lines.map (renumber a.lines.length) := by
    have hab := ofText_lines l (A ++ '\n' :: B) (by simp)
    rw [normalize_append A B hfeed hreturn hB, linesOf_append hmarked _ _ hend,
      List.mapIdx_append] at hab
    have ha := ofText_lines l A hA
    have hlength : a.lines.length = (linesOf l (Source.normalize A)).length := by
      rw [ha, List.length_mapIdx]
    rw [hab, hlength, ha, ofText_lines l B hB]
    congr 1
    apply List.ext_getElem?
    intro k
    rw [List.getElem?_mapIdx, List.getElem?_map, List.getElem?_mapIdx, Option.map_map]
    congr 1
    funext w
    simp only [SourceLine.ofLabelled, renumber, Function.comp_apply]
    congr 1
    omega
  have hdecisions : Complexity.decisionPoints l.decisions
      (b.lines.map (renumber a.lines.length)) =
        Complexity.decisionPoints l.decisions b.lines := by
    unfold Complexity.decisionPoints
    rw [List.map_map]
    rfl
  refine ⟨hlines, ?_, ?_, ?_⟩
  · simp only [Complexity.ofSource, hlines, decisionPoints_append]
    rw [ofText_language, ofText_language, ofText_language, hdecisions]
    omega
  · simp only [Size.ofSource, hlines, List.countP_append, List.countP_map]
    rfl
  · simp only [Size.ofSource, hlines, List.countP_append, List.countP_map]
    rfl

/-- A string that is not closed, with an escape as its last character, ends with its line. -/
theorem ofText_lines_append_string :
    Language.javascript ∈ Language.table ∧
      (Source.ofText Language.javascript "if (a) b = 'c\\\n/* d\r */ e // f\n").lines.map (·.code) =
        ["if (a) b = '", "", " e"] := by
  have hl : Language.javascript ∈ Language.table := by simp [Language.table]
  refine ⟨hl, ?_⟩
  have hmode : (Scanner.start.run Language.javascript 0
      (Source.normalize "if (a) b = 'c\\")).mode = .string '\'' := by decide
  have h := ofText_lines_append Language.javascript hl "if (a) b = 'c\\" "/* d\r */ e // f\n"
    (by decide) (by decide) (by decide) (by decide)
    (fun ending h => by rw [hmode] at h; cases h)
    (fun d hd h => by
      rw [hmode] at h
      cases h
      exact absurd hd (by decide))
  rw [show ("if (a) b = 'c\\\n/* d\r */ e // f\n" : Text) =
    "if (a) b = 'c\\" ++ '\n' :: "/* d\r */ e // f\n" from rfl, h.1]
  decide

end Proofs

end SourceGrade
