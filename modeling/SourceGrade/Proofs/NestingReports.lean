import SourceGrade.Proofs.FoundIssues
import SourceGrade.Proofs.FunctionLines
import SourceGrade.Proofs.GuardedScopes
import SourceGrade.Proofs.HazardErrors
import SourceGrade.Proofs.WrittenNumbers
import SourceGrade.Proofs.ReportKeys

/-!
# Reports of deep nesting

The functions that are too deep are reported at their deepest lines, the shortest first, and a line
that is reported already is not reported again. Code outside functions is reported once, at the
first of its deepest lines.
-/

namespace SourceGrade

/-- The depths of the lines outside functions, each with its line. -/
def Inspection.outsideDepths (i : Inspection) (n : Nesting) : List (Nat × Nat) :=
  (n.lineDepths.zipIdx 1).filter fun x => i.isOutside x.2

/-- The first line of greatest depth outside functions, with its depth. -/
structure Inspection.IsDeepestOutside (i : Inspection) (n : Nesting) (d k : Nat) : Prop where
  mem : (d, k) ∈ i.outsideDepths n
  greatest : ∀ x ∈ i.outsideDepths n, x.1 ≤ d
  first : ∀ x ∈ i.outsideDepths n, x.1 = d → k ≤ x.2

namespace DeepNesting

def describe (depth : Nat) (place : Text) : Text :=
  "Excessive nesting depth of " ++ Text.ofNat depth ++ " levels in " ++ place

def functionPlace (f : FunctionSpan) : Text := "'" ++ f.name ++ "'"

def topLevelPlace : Text := "top-level code"

/-- Whether an issue is about the code outside functions. -/
def IsTopLevel (x : Issue) : Prop := ∃ d, x.description = describe d topLevelPlace

/-- What the check for deep nesting reports of a unit. -/
structure Reported (i : Inspection) (n : Nesting) (limits : Limits Int) (issues : List Issue) :
    Prop where
  lines_nodup : (issues.map (·.line?)).Nodup
  lines_mem : ∀ x ∈ issues, ∃ k : Nat, x.line? = some (k : Int) ∧ 1 ≤ k ∧ k ≤ i.source.lineCount
  /-- Each function has the depth that was measured for it and not that of another one. -/
  measured : ∀ f ∈ i.functions, n.ofFunction f = Nesting.depthIn n.lineDepths f
  /-- The deepest line of a function that is too deep has the issue of this function, or of one that
  is not longer. -/
  function_reported : ∀ f ∈ i.functions, limits.warn < (n.ofFunction f).depth →
    ∃ line, (n.ofFunction f).deepestLine? = some line ∧
      ∃ g ∈ i.functions, g.length ≤ f.length ∧ (n.ofFunction g).deepestLine? = some line ∧
        issueAt i limits (n.ofFunction g).depth line (functionPlace g) ∈ issues
  topLevel_unique : ∀ x ∈ issues, ∀ y ∈ issues, IsTopLevel x → IsTopLevel y → x = y
  topLevel_iff : (∃ x ∈ issues, IsTopLevel x) ↔ ∃ p ∈ i.outsideDepths n, limits.warn < p.1
  topLevel_deepest : ∀ x ∈ issues, IsTopLevel x →
    ∃ d k, i.IsDeepestOutside n d k ∧ x = issueAt i limits d k topLevelPlace
  states : ∀ x ∈ issues, ∃ d place, x.description = describe d place
  severity : ∀ x ∈ issues, ∀ d place, x.description = describe d place →
    limits.warn < d ∧ (x.severity = .major ↔ limits.major ≤ d)

def findingOf (n : Nesting) (line : Nat) (f : FunctionSpan) : Finding :=
  ⟨(n.ofFunction f).depth, line, functionPlace f⟩

/-- What is found outside functions: nothing when no line there is too deep, or else the first line
of greatest depth. -/
inductive FoundOutside (i : Inspection) (n : Nesting) (limits : Limits Int) : List Finding → Prop
  | none (hshallow : ∀ p ∈ i.outsideDepths n, ¬limits.warn < p.1) : FoundOutside i n limits []
  | one {d k : Nat} (hfirst : i.IsDeepestOutside n d k) (hdeep : limits.warn < d) :
    FoundOutside i n limits [⟨d, k, topLevelPlace⟩]

/-- What is found inside functions, and outside them. -/
structure Found (i : Inspection) (n : Nesting) (limits : Limits Int) (inside top : List Finding) :
    Prop where
  lines_nodup : ((inside ++ top).map (·.line)).Nodup
  is_function : ∀ x ∈ inside, ∃ f ∈ i.functions, x = findingOf n x.line f ∧ limits.warn < x.depth
  function_found : ∀ f ∈ i.functions, limits.warn < (n.ofFunction f).depth →
    ∃ line, (n.ofFunction f).deepestLine? = some line ∧
      ∃ g ∈ i.functions, g.length ≤ f.length ∧ (n.ofFunction g).deepestLine? = some line ∧
        findingOf n line g ∈ inside
  found_outside : FoundOutside i n limits top

end DeepNesting

namespace Proofs

open DeepNesting (Limits Finding)

variable {i : Inspection} {n : Nesting}

/-! ### Functions -/

section

variable {ι : Type} [Comparable ι] {limits : Limits ι}

lemma functionFindings_cons {flagged : List Nat} {f : FunctionSpan} {fs : List FunctionSpan}
    {found : List Finding}
    (h : DeepNesting.functionFindings n limits flagged (f :: fs) = .ok found) :
    (DeepNesting.functionFindings n limits flagged fs = .ok found ∧
        (Comparable.isWithin (n.ofFunction f).depth limits.warn = true ∨
          ∃ line ∈ flagged, (n.ofFunction f).deepestLine? = some line)) ∨
      ∃ line rest, (n.ofFunction f).deepestLine? = some line ∧ line ∉ flagged ∧
        Comparable.isWithin (n.ofFunction f).depth limits.warn = false ∧
        DeepNesting.functionFindings n limits (line :: flagged) fs = .ok rest ∧
        found = DeepNesting.findingOf n line f :: rest := by
  rw [DeepNesting.functionFindings] at h
  split at h
  · next hwithin => exact .inl ⟨h, .inl hwithin⟩
  · next hdeep =>
    split at h
    · cases h
    · next line hline =>
      split at h
      · next hflagged => exact .inl ⟨h, .inr ⟨line, List.contains_iff_mem.mp hflagged, hline⟩⟩
      · next hflagged =>
        obtain ⟨rest, hrest, rfl⟩ := except_map_eq_ok h
        rw [List.contains_iff_mem] at hflagged
        exact .inr ⟨line, rest, hline, hflagged, Bool.eq_false_of_not_eq_true hdeep, hrest, rfl⟩

/-- What is found is a function that is too deep, at its deepest line, and no line twice. -/
lemma functionFindings_lines {flagged : List Nat} {fs : List FunctionSpan} {found : List Finding}
    (h : DeepNesting.functionFindings n limits flagged fs = .ok found) :
    (found.map (·.line)).Nodup ∧ ∀ x ∈ found, x.line ∉ flagged ∧
      ∃ f ∈ fs, (n.ofFunction f).deepestLine? = some x.line ∧
        Comparable.isWithin (n.ofFunction f).depth limits.warn = false ∧
        x = DeepNesting.findingOf n x.line f := by
  induction fs generalizing flagged found with
  | nil =>
    obtain rfl := Except.ok.inj h
    exact ⟨.nil, List.forall_mem_nil _⟩
  | cons f fs ih =>
    rcases functionFindings_cons h with ⟨h, -⟩ | ⟨line, rest, hline, hflagged, hdeep, hrest, rfl⟩
    · obtain ⟨hnodup, hfound⟩ := ih h
      refine ⟨hnodup, fun x hx => ?_⟩
      obtain ⟨hflagged, g, hg, hx⟩ := hfound x hx
      exact ⟨hflagged, g, List.mem_cons_of_mem f hg, hx⟩
    · obtain ⟨hnodup, hfound⟩ := ih hrest
      constructor
      · refine List.nodup_cons.mpr ⟨fun hmem => ?_, hnodup⟩
        obtain ⟨x, hx, heq⟩ := List.mem_map.mp hmem
        exact (hfound x hx).1 (heq ▸ List.mem_cons_self)
      · refine List.forall_mem_cons.mpr ⟨⟨hflagged, f, List.mem_cons_self, hline, hdeep, rfl⟩,
          fun x hx => ?_⟩
        obtain ⟨hnew, g, hg, hx⟩ := hfound x hx
        exact ⟨fun hmem => hnew (List.mem_cons_of_mem line hmem), g, List.mem_cons_of_mem f hg, hx⟩

/-- The deepest line of a function that is too deep is flagged, or a function is found there that
does not come later. -/
lemma functionFindings_deep {flagged : List Nat} {fs : List FunctionSpan} {found : List Finding}
    (hfs : fs.Pairwise fun f g => f.length ≤ g.length)
    (h : DeepNesting.functionFindings n limits flagged fs = .ok found) {f : FunctionSpan}
    (hf : f ∈ fs) (hdeep : Comparable.isWithin (n.ofFunction f).depth limits.warn = false) :
    ∃ line, (n.ofFunction f).deepestLine? = some line ∧ (line ∈ flagged ∨
      ∃ g ∈ fs, g.length ≤ f.length ∧ (n.ofFunction g).deepestLine? = some line ∧
        DeepNesting.findingOf n line g ∈ found) := by
  induction fs generalizing flagged found with
  | nil => cases hf
  | cons f' fs ih =>
    obtain ⟨hshorter, hfs⟩ := List.pairwise_cons.mp hfs
    rcases functionFindings_cons h with ⟨h, hpassed⟩ | ⟨line, rest, hline, -, -, hrest, rfl⟩
    · rcases List.mem_cons.mp hf with rfl | hf
      · rcases hpassed with hwithin | ⟨line, hflagged, hline⟩
        · rw [hwithin] at hdeep
          cases hdeep
        · exact ⟨line, hline, .inl hflagged⟩
      · obtain ⟨line, hline, hflagged | ⟨g, hg, hfound⟩⟩ := ih hfs h hf
        · exact ⟨line, hline, .inl hflagged⟩
        · exact ⟨line, hline, .inr ⟨g, List.mem_cons_of_mem f' hg, hfound⟩⟩
    · rcases List.mem_cons.mp hf with rfl | hf
      · exact ⟨line, hline, .inr ⟨f, List.mem_cons_self, le_rfl, hline, List.mem_cons_self⟩⟩
      · obtain ⟨line', hline', hflagged | ⟨g, hg, hlength, hgline, hfound⟩⟩ := ih hfs hrest hf
        · -- a line that is new among the flagged ones is that of the function just found
          rcases List.mem_cons.mp hflagged with rfl | hflagged
          · exact ⟨line', hline', .inr ⟨f', List.mem_cons_self, hshorter f hf, hline,
              List.mem_cons_self⟩⟩
          · exact ⟨line', hline', .inl hflagged⟩
        · exact ⟨line', hline', .inr ⟨g, List.mem_cons_of_mem f' hg, hlength, hgline,
            List.mem_cons_of_mem _ hfound⟩⟩

end

/-! ### Code outside functions -/

lemma topLevel_eq (i : Inspection) (line : Nat) (best : Option (Nat × Nat)) (ds : List Nat) :
    DeepNesting.topLevel i line best ds =
      ((ds.zipIdx line).filter fun x => i.isOutside x.2).foldl
        (fun best x => if best.all (·.1 < x.1) then some x else best) best := by
  induction ds generalizing line best with
  | nil => rfl
  | cons d ds ih =>
    rw [DeepNesting.topLevel, List.zipIdx_cons, ih]
    cases hside : i.functionAt? line with
    | none => simp [Inspection.isOutside, hside]
    | some f => simp [Inspection.isOutside, hside]

lemma foldl_first_greatest {b : Nat × Nat} {xs : List (Nat × Nat)}
    (hxs : (b :: xs).Pairwise (·.2 < ·.2)) :
    ∃ x ∈ b :: xs, xs.foldl (fun best x => if best.all (·.1 < x.1) then some x else best) (some b) =
        some x ∧ (∀ y ∈ b :: xs, y.1 ≤ x.1) ∧ ∀ y ∈ b :: xs, y.1 = x.1 → x.2 ≤ y.2 := by
  induction xs generalizing b with
  | nil => exact ⟨b, List.mem_cons_self, rfl, by simp, by simp⟩
  | cons c xs ih =>
    obtain ⟨hb, hcxs⟩ := List.pairwise_cons.mp hxs
    obtain ⟨hc, hxs⟩ := List.pairwise_cons.mp hcxs
    rw [List.foldl_cons]
    by_cases hlt : b.1 < c.1
    · obtain ⟨x, hx, heq, hgreatest, hfirst⟩ := ih hcxs
      have hcx := hgreatest c List.mem_cons_self
      refine ⟨x, List.mem_cons_of_mem b hx, ?_, ?_, ?_⟩
      · rw [← heq]
        simp [hlt]
      · exact List.forall_mem_cons.mpr ⟨by omega, hgreatest⟩
      · exact List.forall_mem_cons.mpr ⟨fun h => by omega, hfirst⟩
    · -- the new item is not deeper and comes later, so it is left out of the induction hypothesis
      have hbxs : (b :: xs).Pairwise (·.2 < ·.2) :=
        List.pairwise_cons.mpr ⟨fun y hy => hb y (List.mem_cons_of_mem c hy), hxs⟩
      obtain ⟨x, hx, heq, hgreatest, hfirst⟩ := ih hbxs
      obtain ⟨hbx, hgreatest⟩ := List.forall_mem_cons.mp hgreatest
      obtain ⟨hbfirst, hfirst⟩ := List.forall_mem_cons.mp hfirst
      have hbc := hb c List.mem_cons_self
      have hcfirst : c.1 = x.1 → x.2 ≤ c.2 := by
        intro hcx
        have := hbfirst (by omega)
        omega
      refine ⟨x, ?_, ?_, ?_, ?_⟩
      · rcases List.mem_cons.mp hx with rfl | hx
        · exact List.mem_cons_self
        · exact List.mem_cons_of_mem b (List.mem_cons_of_mem c hx)
      · rw [← heq]
        simp [hlt]
      · exact List.forall_mem_cons.mpr ⟨hbx, List.forall_mem_cons.mpr ⟨by omega, hgreatest⟩⟩
      · exact List.forall_mem_cons.mpr ⟨hbfirst, List.forall_mem_cons.mpr ⟨hcfirst, hfirst⟩⟩

lemma topLevel_cases (i : Inspection) (n : Nesting) :
    (DeepNesting.topLevel i 1 none n.lineDepths = none ∧ i.outsideDepths n = []) ∨
      ∃ d k, DeepNesting.topLevel i 1 none n.lineDepths = some (d, k) ∧
        i.IsDeepestOutside n d k := by
  rw [topLevel_eq]
  change (List.foldl _ none (i.outsideDepths n) = none ∧ _) ∨
    ∃ d k, List.foldl _ none (i.outsideDepths n) = some (d, k) ∧ _
  have hlines : (i.outsideDepths n).Pairwise (·.2 < ·.2) := by
    refine List.Pairwise.filter _ (List.pairwise_map.mp ?_)
    rw [List.zipIdx_map_snd]
    exact List.pairwise_lt_range'
  cases hdepths : i.outsideDepths n with
  | nil => exact .inl ⟨rfl, rfl⟩
  | cons b xs =>
    obtain ⟨⟨d, k⟩, hmem, heq, hgreatest, hfirst⟩ := foldl_first_greatest (hdepths ▸ hlines)
    rw [← hdepths] at hmem hgreatest hfirst
    exact .inr ⟨d, k, heq, hmem, hgreatest, hfirst⟩

section

variable {limits : Limits Int}

lemma exceeds_iff {d : Nat} {limit : Int} :
    Comparable.exceeds (d : Int) limit = true ↔ limit < d := by
  change Comparison.holds .gt (compare (d : Int) limit) = true ↔ _
  rw [← Int.compare_eq_gt]
  cases compare (d : Int) limit <;> decide

lemma isWithin_iff {d : Nat} {limit : Int} :
    Comparable.isWithin (d : Int) limit = true ↔ d ≤ limit := by
  change Comparison.holds .le (compare (d : Int) limit) = true ↔ _
  rw [← Std.isLE_compare]
  cases compare (d : Int) limit <;> decide

lemma reaches_iff {d : Nat} {limit : Int} :
    Comparable.reaches (d : Int) limit = true ↔ limit ≤ d := by
  change Comparison.holds .ge (compare (d : Int) limit) = true ↔ _
  rw [← Std.isGE_compare]
  cases compare (d : Int) limit <;> decide

lemma isWithin_eq_false_iff {d : Nat} {limit : Int} :
    Comparable.isWithin (d : Int) limit = false ↔ limit < d := by
  rw [← Bool.not_eq_true, isWithin_iff, not_le]

lemma topLevelFindings_found {flagged : List Nat}
    (hflagged : ∀ line ∈ flagged, i.isOutside line = false) :
    DeepNesting.FoundOutside i n limits (DeepNesting.topLevelFindings i n limits flagged) := by
  unfold DeepNesting.topLevelFindings
  rcases topLevel_cases i n with ⟨htop, hnone⟩ | ⟨d, k, htop, hdeepest⟩
  · rw [htop]
    exact .none (hnone ▸ List.forall_mem_nil _)
  · have hside : i.isOutside k = true := (List.mem_filter.mp hdeepest.mem).2
    have hnew : flagged.contains k = false := by
      rw [← Bool.not_eq_true, List.contains_iff_mem]
      intro hmem
      rw [hflagged k hmem] at hside
      cases hside
    rw [htop]
    dsimp only
    rw [hnew, Bool.not_false, Bool.and_true]
    by_cases hdeep : Comparable.exceeds (d : Int) limits.warn = true
    · rw [if_pos hdeep]
      exact .one hdeepest (exceeds_iff.mp hdeep)
    · rw [if_neg hdeep]
      rw [exceeds_iff] at hdeep
      refine .none fun p hp hlt => hdeep ?_
      have := hdeepest.greatest p hp
      omega

end

/-! ### Measures of functions -/

lemma depthIn_line {depths : List Nat} {f : FunctionSpan} {line : Nat} (hstart : 0 < f.startLine)
    (h : (Nesting.depthIn depths f).deepestLine? = some line) : f.contains line = true := by
  rcases deepest_line h with hnone | ⟨hle, hlt⟩
  · cases hnone
  · rw [List.length_drop, List.length_take] at hlt
    unfold FunctionSpan.contains
    rw [Bool.and_eq_true, decide_eq_true_iff, decide_eq_true_iff]
    omega

lemma ofFunction_eq {blocks : BlockMap} {functions : List FunctionSpan}
    (hfunctions : functions.Pairwise (·.startLine < ·.startLine)) {f : FunctionSpan}
    (hf : f ∈ functions) : (Nesting.ofBlocks blocks functions).ofFunction f =
      Nesting.depthIn (Nesting.ofBlocks blocks functions).lineDepths f := by
  have hfind : functions.find? (·.sameKey f) = some f := by
    obtain ⟨g, hg⟩ : ∃ g, functions.find? (·.sameKey f) = some g :=
      Option.isSome_iff_exists.mp
        (List.find?_isSome.mpr ⟨f, hf, by simp [FunctionSpan.sameKey]⟩)
    have hkey := List.find?_some hg
    have hstart : g.startLine = f.startLine := by
      have hboth := Bool.and_eq_true_iff.mp hkey
      exact beq_iff_eq.mp hboth.2
    rw [hg, eq_of_pairwise_lt hfunctions (List.mem_of_find?_eq_some hg) hf hstart]
  unfold Nesting.ofFunction Nesting.ofBlocks
  dsimp only
  rw [List.find?_map]
  change ((Option.map _ (functions.find? (·.sameKey f))).map _).getD _ = _
  rw [hfind]
  rfl

/-! ### Reports -/

lemma nesting_describe_inj {d d' : Nat} {place place' : Text} :
    DeepNesting.describe d place = DeepNesting.describe d' place' ↔ d = d' ∧ place = place' := by
  constructor
  · intro h
    have hspace : ∀ n, ' ' ∉ Text.ofNat n := fun n hmem =>
      absurd (isAsciiDigit_ofNat n ' ' hmem) (by decide)
    have hform : ∀ n p, DeepNesting.describe n p = ("Excessive nesting depth of " : Text) ++
        (Text.ofNat n ++ ' ' :: (("levels in " : Text) ++ p)) := by
      intro n p
      unfold DeepNesting.describe
      rw [List.append_assoc, List.append_assoc]
      rfl
    rw [hform, hform, List.append_cancel_left_eq] at h
    obtain ⟨hdepth, hplace⟩ := append_cons_inj (hspace d) (hspace d') h
    exact ⟨ofNat_injective hdepth, List.append_cancel_left hplace⟩
  · rintro ⟨rfl, rfl⟩
    rfl

lemma functionPlace_ne (f : FunctionSpan) :
    DeepNesting.functionPlace f ≠ DeepNesting.topLevelPlace := by
  intro h
  have hhead : some '\'' = some 't' := congrArg List.head? h
  exact absurd hhead (by decide)

lemma deepestLine_inside (hi : i.Regular)
    (hfunctions : i.functions.Pairwise (·.startLine < ·.startLine))
    (hn : n = .ofBlocks i.blocks i.functions) {f : FunctionSpan} (hf : f ∈ i.functions) {line : Nat}
    (h : (n.ofFunction f).deepestLine? = some line) : i.isOutside line = false := by
  rw [hn, ofFunction_eq hfunctions hf] at h
  have hcontains := depthIn_line (hi.startLine_pos f hf) h
  rw [← Bool.not_eq_true, isOutside_iff]
  intro hnone
  rw [hnone f hf] at hcontains
  cases hcontains

lemma found_lines_nodup {limits : Limits Int} {inside top : List Finding}
    (h : DeepNesting.FoundOutside i n limits top) (hnodup : (inside.map (·.line)).Nodup)
    (hinside : ∀ line ∈ inside.map (·.line), i.isOutside line = false) :
    ((inside ++ top).map (·.line)).Nodup := by
  rw [List.map_append, List.nodup_append]
  cases h with
  | none _ => simpa using hnodup
  | @one d k hfirst _ =>
    have hside : i.isOutside k = true := (List.mem_filter.mp hfirst.mem).2
    refine ⟨hnodup, List.nodup_singleton k, ?_⟩
    rintro line hline _ hk rfl
    obtain rfl := List.mem_singleton.mp hk
    rw [hinside _ hline] at hside
    cases hside

lemma mem_byLength {fs : List FunctionSpan} {f : FunctionSpan} :
    f ∈ DeepNesting.byLength fs ↔ f ∈ fs := (List.mergeSort_perm _ _).mem_iff

lemma byLength_pairwise (fs : List FunctionSpan) :
    (DeepNesting.byLength fs).Pairwise fun f g => f.length ≤ g.length := by
  have hsorted : (DeepNesting.byLength fs).Pairwise fun f g =>
      decide (f.length ≤ g.length) = true := by
    refine List.pairwise_mergeSort (fun f g h => ?_) (fun f g => ?_) fs
    · simp only [decide_eq_true_iff]
      exact Nat.le_trans
    · simp only [Bool.or_eq_true, decide_eq_true_iff]
      exact Nat.le_total _ _
  exact hsorted.imp decide_eq_true_iff.mp

lemma findings_eq_ok (hi : i.Regular)
    (hfunctions : i.functions.Pairwise (·.startLine < ·.startLine)) {limits : Limits Int}
    (hwarn : 0 ≤ limits.warn) (hn : n = .ofBlocks i.blocks i.functions) :
    ∃ inside top, DeepNesting.findings i n limits = .ok (inside ++ top) ∧
      DeepNesting.Found i n limits inside top := by
  have hwithin : Comparable.isWithin 0 limits.warn = true := isWithin_iff.mpr hwarn
  obtain ⟨inside, hinside⟩ :=
    functionFindings_ok hwithin i.blocks i.functions [] (DeepNesting.byLength i.functions)
  rw [← hn] at hinside
  obtain ⟨hnodup, hfound⟩ := functionFindings_lines hinside
  have hflagged : ∀ line ∈ inside.map (·.line), i.isOutside line = false := by
    intro line hline
    obtain ⟨x, hx, rfl⟩ := List.mem_map.mp hline
    obtain ⟨-, f, hf, hdeepest, -⟩ := hfound x hx
    exact deepestLine_inside hi hfunctions hn (mem_byLength.mp hf) hdeepest
  have htop : DeepNesting.FoundOutside i n limits
      (DeepNesting.topLevelFindings i n limits (inside.map (·.line))) :=
    topLevelFindings_found hflagged
  refine ⟨inside, _, ?_, found_lines_nodup htop hnodup hflagged, ?_, ?_, htop⟩
  · rw [DeepNesting.findings, hinside]
    rfl
  · intro x hx
    obtain ⟨-, f, hf, -, hdeep, hx⟩ := hfound x hx
    refine ⟨f, mem_byLength.mp hf, hx, ?_⟩
    rw [hx]
    exact isWithin_eq_false_iff.mp hdeep
  · intro f hf hdeep
    obtain ⟨line, hline, hflagged | ⟨g, hg, hfound⟩⟩ := functionFindings_deep
      (byLength_pairwise _) hinside (mem_byLength.mpr hf) (isWithin_eq_false_iff.mpr hdeep)
    · cases hflagged
    · exact ⟨line, hline, g, mem_byLength.mp hg, hfound⟩

section

variable {limits : Limits Int} {inside top : List Finding}

lemma found_deep (h : DeepNesting.Found i n limits inside top) {x : Finding}
    (hx : x ∈ inside ++ top) : limits.warn < x.depth := by
  rcases List.mem_append.mp hx with hx | hx
  · obtain ⟨f, -, -, hlt⟩ := h.is_function x hx
    exact hlt
  · cases h.found_outside with
    | none _ => cases hx
    | one _ hlt => exact List.mem_singleton.mp hx ▸ hlt

lemma mem_top_of_isTopLevel (h : DeepNesting.Found i n limits inside top) {x : Finding}
    (hx : x ∈ inside ++ top)
    (hplace : DeepNesting.IsTopLevel (DeepNesting.issueAt i limits x.depth x.line x.place)) :
    x ∈ top := by
  obtain ⟨d, hdescription⟩ := hplace
  rcases List.mem_append.mp hx with hx | hx
  · obtain ⟨f, -, heq, -⟩ := h.is_function x hx
    have hf : x.place = DeepNesting.functionPlace f := congrArg Finding.place heq
    exact absurd (hf ▸ (nesting_describe_inj.mp hdescription).2) (functionPlace_ne f)
  · exact hx

lemma topLevel_reported (h : DeepNesting.Found i n limits inside top) {issues : List Issue}
    (hissues : issues = (inside ++ top).map fun f =>
      DeepNesting.issueAt i limits f.depth f.line f.place) :
    ((∃ x ∈ issues, DeepNesting.IsTopLevel x) ↔ ∃ p ∈ i.outsideDepths n, limits.warn < p.1) ∧
      ∀ x ∈ issues, DeepNesting.IsTopLevel x → ∃ d k, i.IsDeepestOutside n d k ∧
        x = DeepNesting.issueAt i limits d k DeepNesting.topLevelPlace := by
  have htop : ∀ x ∈ issues, DeepNesting.IsTopLevel x → ∃ f ∈ top,
      x = DeepNesting.issueAt i limits f.depth f.line f.place := by
    intro x hx hplace
    obtain ⟨f, hf, rfl⟩ := List.mem_map.mp (hissues ▸ hx)
    exact ⟨f, mem_top_of_isTopLevel h hf hplace, rfl⟩
  cases h.found_outside with
  | none hshallow =>
    refine ⟨iff_of_false ?_ ?_, fun x hx hplace => ?_⟩
    · rintro ⟨x, hx, hplace⟩
      obtain ⟨f, hf, -⟩ := htop x hx hplace
      cases hf
    · rintro ⟨p, hp, hlt⟩
      exact hshallow p hp hlt
    · obtain ⟨f, hf, -⟩ := htop x hx hplace
      cases hf
  | @one d k hfirst hlt =>
    constructor
    · have hmem := List.mem_append_right inside
        (List.mem_singleton_self (⟨d, k, DeepNesting.topLevelPlace⟩ : Finding))
      refine iff_of_true ⟨_, hissues ▸ List.mem_map_of_mem hmem, d, rfl⟩ ⟨(d, k), hfirst.mem, hlt⟩
    · intro x hx hplace
      obtain ⟨f, hf, rfl⟩ := htop x hx hplace
      obtain rfl := List.mem_singleton.mp hf
      exact ⟨d, k, hfirst, rfl⟩

lemma isDeepestOutside_unique {d d' k k' : Nat} (h : i.IsDeepestOutside n d k)
    (h' : i.IsDeepestOutside n d' k') : d = d' ∧ k = k' := by
  have hd : d = d' := Nat.le_antisymm (h'.greatest _ h.mem) (h.greatest _ h'.mem)
  exact ⟨hd, Nat.le_antisymm (h.first _ h'.mem hd.symm) (h'.first _ h.mem hd)⟩

lemma issueAt_severity {d line : Nat} {place : Text} :
    (DeepNesting.issueAt i limits d line place).severity = .major ↔ limits.major ≤ d := by
  rw [← reaches_iff]
  unfold DeepNesting.issueAt Issue.make
  dsimp only
  split
  · next hmajor => simp [hmajor]
  · next hminor => simp [hminor]

end

lemma nesting_reported (hi : i.Regular)
    (hfunctions : i.functions.Pairwise (·.startLine < ·.startLine)) {limits : Limits Int}
    (hwarn : 0 ≤ limits.warn) (hn : n = .ofBlocks i.blocks i.functions) :
    ∃ issues, DeepNesting.issues i n limits = .ok issues ∧
      DeepNesting.Reported i n limits issues := by
  obtain ⟨inside, top, hfindings, hfound⟩ := findings_eq_ok hi hfunctions hwarn hn
  have hissues : DeepNesting.issues i n limits = .ok ((inside ++ top).map fun f =>
      DeepNesting.issueAt i limits f.depth f.line f.place) := by
    rw [DeepNesting.issues, hfindings]
    rfl
  obtain ⟨htop, hdeepest⟩ := topLevel_reported hfound rfl
  refine ⟨_, hissues, ?lines, ?mem, ?measured, ?functions, ?unique, htop, hdeepest, ?states,
    ?severity⟩
  case lines =>
    have hinj : Function.Injective fun k : Nat => some (k : Int) :=
      fun _ _ h => Int.ofNat.inj (Option.some.inj h)
    have hlines := hfound.lines_nodup.map hinj
    rw [List.map_map] at hlines ⊢
    exact hlines
  case mem =>
    subst hn
    intro x hx
    obtain ⟨_, _, _, _, l, hl, rfl⟩ := (nesting_found hi hissues).reports x hx
    obtain ⟨k, hk⟩ := List.mem_iff_getElem?.mp hl
    have hnumber := hi.number_eq k l hk
    have hlt : k < i.source.lines.length := (List.getElem?_eq_some_iff.mp hk).1
    exact ⟨l.number, rfl, by omega, show l.number ≤ i.source.lines.length by omega⟩
  case measured =>
    subst hn
    exact fun f hf => ofFunction_eq hfunctions hf
  case functions =>
    intro f hf hlt
    obtain ⟨line, hline, g, hg, hlength, hgline, hmem⟩ := hfound.function_found f hf hlt
    exact ⟨line, hline, g, hg, hlength, hgline,
      List.mem_map.mpr ⟨_, List.mem_append_left top hmem, rfl⟩⟩
  case unique =>
    intro x hx y hy hxtop hytop
    obtain ⟨d, k, hfirst, rfl⟩ := hdeepest x hx hxtop
    obtain ⟨d', k', hfirst', rfl⟩ := hdeepest y hy hytop
    obtain ⟨rfl, rfl⟩ := isDeepestOutside_unique hfirst hfirst'
    rfl
  case states =>
    intro x hx
    obtain ⟨f, -, rfl⟩ := List.mem_map.mp hx
    exact ⟨f.depth, f.place, rfl⟩
  case severity =>
    intro x hx d place hdescription
    obtain ⟨f, hf, rfl⟩ := List.mem_map.mp hx
    obtain ⟨rfl, -⟩ := nesting_describe_inj.mp hdescription
    exact ⟨found_deep hfound hf, issueAt_severity⟩

/-- For every text and every limit that is not negative the check for deep nesting finishes, and it
reports what `DeepNesting.Reported` says. -/
theorem ofText_nesting_reported (l : Language) (t : Text) {blocks : BlockMap}
    (hblocks : BlockMap.ofSource (Source.ofText l t) = .ok blocks) {limits : Limits Int}
    (hwarn : 0 ≤ limits.warn) :
    let s := Source.ofText l t
    let i : Inspection := ⟨s, blocks, s.functions⟩
    let n := Nesting.ofBlocks blocks s.functions
    ∃ issues, DeepNesting.issues i n limits = .ok issues ∧
      DeepNesting.Reported i n limits issues := by
  intro s i n
  have hfunctions : i.functions.Pairwise (·.startLine < ·.startLine) :=
    functionsFrom_pairwise s.language (ofText_pairwise l t)
  exact nesting_reported (ofText_regular l t hblocks) hfunctions hwarn rfl

/-- A function in another one with the same deepest line, and a condition after them. -/
def sharedLine : Text :=
  "def f(a):\n    def g(b):\n        if b:\n            return 1\n    return g\nif x:\n    y = 1"

theorem ofText_nesting_reported_sharedLine :
    let s := Source.ofText (Language.resolve "python") sharedLine
    let blocks : BlockMap := ⟨[[.other], [.other, .other], [.other, .other, .conditional],
      [.other, .other, .conditional], [.other], [.conditional], [.conditional]]⟩
    let i : Inspection := ⟨s, blocks, s.functions⟩
    let n := Nesting.ofBlocks blocks s.functions
    let limits : Limits Int := ⟨0, 2⟩
    let reports : List (Option Int × Text) :=
      [(some 3, "Excessive nesting depth of 1 levels in 'g'"),
        (some 6, "Excessive nesting depth of 1 levels in top-level code")]
    BlockMap.ofSource s = .ok blocks ∧ ∃ issues, DeepNesting.issues i n limits = .ok issues ∧
      issues.map (·.report) = reports ∧ DeepNesting.Reported i n limits issues := by
  intro s blocks i n limits reports
  obtain ⟨hblocks, hlengths⟩ : BlockMap.ofSource s = .ok blocks ∧
      i.functions.map (·.length) = [5, 3] := by decide +kernel
  have hsort : DeepNesting.byLength i.functions = i.functions.reverse := by
    obtain ⟨f, gs, hfs, hf, hgs⟩ := List.map_eq_cons_iff.mp hlengths
    obtain ⟨g, hs, rfl, hg, hnil⟩ := List.map_eq_cons_iff.mp hgs
    obtain rfl := List.map_eq_nil_iff.mp hnil
    simp [hfs, DeepNesting.byLength, List.mergeSort, List.MergeSort.Internal.splitInTwo, hf, hg]
  have hreports : (DeepNesting.issues i n limits).toOption.map (·.map (·.report)) =
      some reports := by
    rw [DeepNesting.issues, DeepNesting.findings, hsort]
    decide +kernel
  have hwarn : 0 ≤ limits.warn := by decide
  obtain ⟨issues, hissues, hreported⟩ :=
    ofText_nesting_reported (Language.resolve "python") sharedLine hblocks hwarn
  rw [hissues] at hreports
  exact ⟨hblocks, issues, hissues, Option.some.inj hreports, hreported⟩

end Proofs

end SourceGrade
