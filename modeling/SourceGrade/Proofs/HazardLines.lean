import SourceGrade.Hazard.Scan
import SourceGrade.Proofs.IssueLines

/-!
# The lines of hazards

Each rule for hazards reports lines of the unit, and no more issues than the characters of its code,
its functions and their parameters allow.
-/

namespace SourceGrade.Proofs

open Inspection (Found)

variable {i : Inspection}

lemma mem_lines_of_statement {l : SourceLine} (hl : l ∈ i.statements) : l ∈ i.source.lines :=
  (statements_sublist i).subset hl

/-! ### Divisions and indices -/

lemma judge_line {l : SourceLine} {m : Match} {f : Division.Finding}
    (h : Division.judge i l m = .ok (some f)) : f.line = l := by
  unfold Division.judge at h
  dsimp only at h
  repeat' split at h
  all_goals cases h
  all_goals rfl

lemma judgeAll_eq_ok {ops : List (SourceLine × Match)} {findings : List Division.Finding}
    (h : Division.judgeAll i ops = .ok findings) :
    (findings.map (·.line)).Sublist (ops.map (·.1)) := by
  induction ops generalizing findings with
  | nil =>
    obtain rfl := Except.ok.inj h
    exact List.Sublist.refl []
  | cons op ops ih =>
    obtain ⟨l, m⟩ := op
    rw [Division.judgeAll] at h
    split at h
    · cases h
    · next finding hfinding =>
      obtain ⟨rest, hrest, rfl⟩ := except_map_eq_ok h
      cases finding with
      | none => exact (ih hrest).cons l
      | some f =>
        obtain rfl := judge_line hfinding
        exact (ih hrest).cons_cons f.line

lemma division_found {issues : List Issue} (h : Division.issues i = .ok issues) :
    Found i (extent i.source.lines) issues := by
  obtain ⟨findings, hjudge, rfl⟩ := except_map_eq_ok h
  have hlines := judgeAll_eq_ok hjudge
  have hkept := firstOfKey_sublist
    (fun f : Division.Finding => (i.scopeKey f.line.number, f.divisor)) [] findings
  have hcount : (Division.operations i).length ≤ extent i.source.lines := by
    refine (flatMap_length_le i.statements fun l => ?_).trans
      (extent_sublist (statements_sublist i))
    rw [List.length_map]
    exact length_all_le Division.operation l.code
  refine (Found.map fun f hf => reports_issueAt ?_ _ _ _ _).mono ?_
  · have hline := hlines.subset (List.mem_map_of_mem (hkept.subset hf))
    obtain ⟨op, hop, hl⟩ := List.mem_map.mp hline
    obtain ⟨l, hmem, hop⟩ := List.mem_flatMap.mp hop
    obtain ⟨m, -, rfl⟩ := List.mem_map.mp hop
    exact hl ▸ mem_lines_of_statement hmem
  · have := hlines.length_le
    rw [List.length_map, List.length_map] at this
    exact hkept.length_le.trans (this.trans hcount)

lemma indexing_found (i : Inspection) : Found i (extent i.source.lines) (Indexing.issues i) := by
  unfold Indexing.issues
  dsimp only
  generalize hfound : (i.statements.flatMap Indexing.accessesOn).filter (Indexing.isUnchecked i) =
    found
  have hsublist : found.Sublist (i.statements.flatMap Indexing.accessesOn) :=
    hfound ▸ List.filter_sublist
  have hkept := (firstOfKey_sublist (fun a : Indexing.Access =>
    (i.scopeKey a.line.number, a.receiver, a.index ++ a.offset)) [] found).trans hsublist
  refine (Found.map fun a ha => reports_issueAt ?_ _ _ _ _).mono ?_
  · obtain ⟨l, hl, ha⟩ := List.mem_flatMap.mp (hkept.subset ha)
    unfold Indexing.accessesOn at ha
    split at ha
    · cases ha
    · obtain ⟨m, -, rfl⟩ := List.mem_map.mp ha
      exact mem_lines_of_statement hl
  · refine hkept.length_le.trans ((flatMap_length_le i.statements fun l => ?_).trans
      (extent_sublist (statements_sublist i)))
    unfold Indexing.accessesOn
    split
    · exact Nat.zero_le _
    · rw [List.length_map]
      exact length_all_le Indexing.access l.code

/-! ### Dereferences -/

lemma localsFrom_length_le (seen : List Text) (ls : List SourceLine) :
    (Dereference.localsFrom seen ls).length ≤ ls.length := by
  induction ls generalizing seen with
  | nil => exact le_rfl
  | cons l ls ih =>
    have hskip := (ih seen).trans (Nat.le_succ ls.length)
    rw [Dereference.localsFrom]
    split
    · exact hskip
    · dsimp only
      split
      · exact hskip
      · split
        · exact Nat.succ_le_succ (ih _)
        · exact hskip

lemma scopes_within {n : Nat} (h : i.Within n) {s : Dereference.Scope}
    (hs : s ∈ Dereference.scopes i) :
    s.statements.Sublist i.source.lines ∧ s.candidates.length ≤ 2 * n := by
  have hlines : i.source.lines.length ≤ n := (length_le_extent _).trans h.extent_le
  unfold Dereference.scopes at hs
  split at hs
  · obtain rfl := List.mem_singleton.mp hs
    have := (localsFrom_length_le [] i.statements).trans (statements_sublist i).length_le
    exact ⟨statements_sublist i, this.trans (by omega)⟩
  · next f fs hfs =>
    obtain ⟨g, hg, rfl⟩ := List.mem_map.mp hs
    have hstatements : (i.statements.filter fun l => g.contains l.number).Sublist
        i.source.lines := List.filter_sublist.trans (statements_sublist i)
    refine ⟨hstatements, ?_⟩
    have hparameters := h.parameters_le g (hfs ▸ hg)
    have hlocals := (localsFrom_length_le []
      (i.statements.filter fun l => g.contains l.number)).trans hstatements.length_le
    unfold Dereference.scopeOf
    rw [List.length_append, List.length_map]
    omega

lemma use?_mem {s : Dereference.Scope} {c : Dereference.Candidate} {name : Text} {l : SourceLine}
    (h : Dereference.use? i s c = some (name, l)) : l ∈ s.statements := by
  unfold Dereference.use? at h
  split at h
  · cases h
  · obtain ⟨l', hl', h⟩ := Option.bind_eq_some_iff.mp h
    split at h
    · cases h
    · obtain ⟨-, rfl⟩ := Prod.mk.inj (Option.some.inj h)
      exact List.mem_of_find?_eq_some hl'

lemma dereference_found {n : Nat} (h : i.Within n) :
    Found i (n * (2 * n)) (Dereference.issues i) := by
  unfold Dereference.issues
  split
  · exact Found.nil _
  · have hscopes : (Dereference.scopes i).length ≤ n := by
      unfold Dereference.scopes
      split
      · exact h.pos
      · next f fs hfs =>
        rw [List.length_map, ← hfs]
        exact h.functions_le
    refine (Found.flatMap fun s hs => ?_).mono (Nat.mul_le_mul_right (2 * n) hscopes)
    obtain ⟨hstatements, hcandidates⟩ := scopes_within h hs
    have hkept := firstOfKey_sublist (fun x : Text × SourceLine => x.1) []
      (s.candidates.filterMap (Dereference.use? i s))
    refine (Found.map fun x hx => ?_).mono
      (hkept.length_le.trans ((List.length_filterMap_le _ _).trans hcandidates))
    obtain ⟨c, -, hc⟩ := List.mem_filterMap.mp (hkept.subset hx)
    exact reports_issueAt (hstatements.subset (use?_mem hc)) _ _ _ _

/-! ### Calls, input, resources and jumps -/

lemma riskyCall_found (i : Inspection) : Found i i.source.lines.length (RiskyCall.issues i) := by
  suffices hfrom : ∀ ls ⊆ i.source.lines, Found i ls.length (RiskyCall.issuesFrom i ls) from
    (hfrom i.statements (statements_sublist i).subset).mono (statements_sublist i).length_le
  intro ls
  induction ls with
  | nil => exact fun _ => Found.nil 0
  | cons l ls ih =>
    intro hls
    obtain ⟨hl, hls⟩ := List.cons_subset.mp hls
    rw [RiskyCall.issuesFrom]
    refine Found.cons ?_ (ih hls)
    split
    · exact Found.nil 1
    · split
      · exact Found.nil 1
      · exact Found.singleton (reports_issueAt hl _ _ _ _)

lemma userInput_found (i : Inspection) : Found i i.source.lines.length (UserInput.issues i) := by
  unfold UserInput.issues
  split
  · exact Found.nil _
  · have hreading : (i.statements.filter fun l => UserInput.read.occursIn l.code).Sublist
        i.source.lines := List.filter_sublist.trans (statements_sublist i)
    exact (Found.map fun l hl => reports_issueAt (hreading.subset hl) _ _ _ _).mono
      hreading.length_le

lemma resource_found (i : Inspection) : Found i i.source.lines.length (Resource.issues i) := by
  refine (Found.filterMap fun l hl issue hissue => ?_).mono (statements_sublist i).length_le
  obtain ⟨name, -, rfl⟩ := Option.map_eq_some_iff.mp hissue
  exact reports_issueAt (mem_lines_of_statement hl) _ _ _ _

lemma deadCode_found (i : Inspection) : Found i i.source.lines.length (DeadCode.issues i) := by
  suffices hfrom : ∀ ls ⊆ i.source.lines, Found i ls.length (DeadCode.issuesFrom i ls) from
    (hfrom i.statements (statements_sublist i).subset).mono (statements_sublist i).length_le
  intro ls
  induction ls with
  | nil => exact fun _ => Found.nil 0
  | cons l ls ih =>
    intro hls
    obtain ⟨-, hls⟩ := List.cons_subset.mp hls
    cases ls with
    | nil => exact Found.nil 1
    | cons next ls =>
      rw [DeadCode.issuesFrom]
      refine Found.cons (Found.toList fun issue hissue => ?_) (ih hls)
      obtain ⟨word, -, rfl⟩ := Option.map_eq_some_iff.mp hissue
      exact reports_issueAt (hls List.mem_cons_self) _ _ _ _

/-! ### Nesting -/

lemma deepest_line {base line k : Nat} {best : Depth} {ds : List Nat}
    (h : (Depth.deepest base line best ds).deepestLine? = some k) :
    best.deepestLine? = some k ∨ line ≤ k ∧ k < line + ds.length := by
  induction ds generalizing line best with
  | nil => exact .inl h
  | cons d ds ih =>
    rw [List.length_cons]
    obtain hbest | hrest := ih h
    · split at hbest
      · have : line = k := Option.some.inj hbest
        exact .inr ⟨by omega, by omega⟩
      · exact .inl hbest
    · exact .inr ⟨by omega, by omega⟩

lemma ofFunction_line (hi : i.Regular) {f : FunctionSpan} {k : Nat}
    (h : ((Nesting.ofBlocks i.blocks i.functions).ofFunction f).deepestLine? = some k) :
    0 < k ∧ k ≤ i.source.lines.length := by
  suffices hfound : ∀ o : Option (FunctionSpan × Depth),
      (∀ x, o = some x → x ∈ (Nesting.ofBlocks i.blocks i.functions).perFunction) →
        ((o.map Prod.snd).getD (Depth.mk 0 none)).deepestLine? = some k →
          0 < k ∧ k ≤ i.source.lines.length from
    hfound _ (fun x hx => List.mem_of_find?_eq_some hx) h
  intro o hmem hline
  cases o with
  | none => cases hline
  | some x =>
    obtain ⟨g, hg, rfl⟩ := List.mem_map.mp (hmem x rfl)
    have hstart := hi.startLine_pos g hg
    have hblocks := hi.blocks_length
    obtain hbest | ⟨hle, hlt⟩ := deepest_line hline
    · cases hbest
    · rw [List.length_drop, List.length_take, List.length_map] at hlt
      omega

lemma functionFindings_eq_ok {ι : Type} [Comparable ι] {n : Nesting}
    {limits : DeepNesting.Limits ι} {flagged : List Nat} {fs : List FunctionSpan}
    {found : List DeepNesting.Finding}
    (h : DeepNesting.functionFindings n limits flagged fs = .ok found) :
    found.length ≤ fs.length ∧
      ∀ x ∈ found, ∃ f ∈ fs, (n.ofFunction f).deepestLine? = some x.line := by
  induction fs generalizing flagged found with
  | nil =>
    obtain rfl := Except.ok.inj h
    exact ⟨le_rfl, by simp⟩
  | cons f fs ih =>
    have hskip : ∀ {flagged}, DeepNesting.functionFindings n limits flagged fs = .ok found →
        found.length ≤ (f :: fs).length ∧
          ∀ x ∈ found, ∃ g ∈ f :: fs, (n.ofFunction g).deepestLine? = some x.line := by
      intro flagged h
      obtain ⟨hlength, hmem⟩ := ih h
      refine ⟨hlength.trans (Nat.le_succ _), fun x hx => ?_⟩
      obtain ⟨g, hg, hline⟩ := hmem x hx
      exact ⟨g, List.mem_cons_of_mem f hg, hline⟩
    rw [DeepNesting.functionFindings] at h
    split at h
    · exact hskip h
    · split at h
      · cases h
      · next line hline =>
        split at h
        · exact hskip h
        · obtain ⟨rest, hrest, rfl⟩ := except_map_eq_ok h
          obtain ⟨hlength, hmem⟩ := ih hrest
          refine ⟨Nat.succ_le_succ hlength, List.forall_mem_cons.mpr ⟨?_, fun x hx => ?_⟩⟩
          · exact ⟨f, List.mem_cons_self, hline⟩
          · obtain ⟨g, hg, hline⟩ := hmem x hx
            exact ⟨g, List.mem_cons_of_mem f hg, hline⟩

lemma topLevel_line {line d k : Nat} {best : Option (Nat × Nat)} {ds : List Nat}
    (h : DeepNesting.topLevel i line best ds = some (d, k)) :
    best = some (d, k) ∨ line ≤ k ∧ k < line + ds.length := by
  induction ds generalizing line best with
  | nil => exact .inl h
  | cons d' ds ih =>
    rw [List.length_cons]
    obtain hbest | hrest := ih h
    · split at hbest
      · exact .inl hbest
      · split at hbest
        · obtain ⟨-, rfl⟩ := Prod.mk.inj (Option.some.inj hbest)
          exact .inr ⟨le_rfl, by omega⟩
        · exact .inl hbest
    · exact .inr ⟨by omega, by omega⟩

lemma topLevelFindings_line {ι : Type} [Comparable ι] (hi : i.Regular)
    (limits : DeepNesting.Limits ι) (flagged : List Nat) :
    (DeepNesting.topLevelFindings i (.ofBlocks i.blocks i.functions) limits flagged).length ≤ 1 ∧
      ∀ x ∈ DeepNesting.topLevelFindings i (.ofBlocks i.blocks i.functions) limits flagged,
        0 < x.line ∧ x.line ≤ i.source.lines.length := by
  unfold DeepNesting.topLevelFindings
  split
  · exact ⟨Nat.zero_le 1, by simp⟩
  · next depth line htop =>
    split
    · refine ⟨le_rfl, List.forall_mem_singleton.mpr ?_⟩
      obtain hbest | ⟨hle, hlt⟩ := topLevel_line htop
      · cases hbest
      · have hlength : (Nesting.ofBlocks i.blocks i.functions).lineDepths.length =
            i.source.lines.length := (List.length_map _).trans hi.blocks_length
        exact ⟨hle, show line ≤ i.source.lines.length by omega⟩
    · exact ⟨Nat.zero_le 1, by simp⟩

lemma nesting_found {ι : Type} [Comparable ι] (hi : i.Regular) {limits : DeepNesting.Limits ι}
    {issues : List Issue}
    (h : DeepNesting.issues i (.ofBlocks i.blocks i.functions) limits = .ok issues) :
    Found i (i.functions.length + 1) issues := by
  obtain ⟨all, hall, rfl⟩ := except_map_eq_ok h
  obtain ⟨found, hfound, rfl⟩ := except_map_eq_ok hall
  obtain ⟨hlength, hmem⟩ := functionFindings_eq_ok hfound
  obtain ⟨htop, htopmem⟩ := topLevelFindings_line hi limits (found.map (·.line))
  refine (Found.map fun x hx => ?_).mono ?_
  · have hline : 0 < x.line ∧ x.line ≤ i.source.lines.length := by
      obtain hx | hx := List.mem_append.mp hx
      · obtain ⟨f, -, hline⟩ := hmem x hx
        exact ofFunction_line hi hline
      · exact htopmem x hx
    exact reports_line hi hline.1 hline.2 _ _ _ _
  · rw [DeepNesting.byLength, List.length_mergeSort] at hlength
    rw [List.length_append]
    omega

/-! ### All rules -/

variable {ι : Type} [Comparable ι] {limits : DeepNesting.Limits ι} {n : Nat}

lemma rule_found (hi : i.Regular) (hn : i.Within n) (rule : HazardRule) {issues : List Issue}
    (h : rule.issues i (.ofBlocks i.blocks i.functions) limits = .ok issues) :
    Found i (n * (3 * n)) issues := by
  have hlinear : 2 * n ≤ n * (3 * n) :=
    (Nat.mul_le_mul_right n (by omega)).trans (Nat.le_mul_of_pos_left (3 * n) hn.pos)
  have hextent := hn.extent_le
  have hlines := length_le_extent i.source.lines
  cases rule with
  | division => exact (division_found h).mono (by omega)
  | indexing =>
    obtain rfl := Except.ok.inj h
    exact (indexing_found i).mono (by omega)
  | dereference =>
    obtain rfl := Except.ok.inj h
    exact (dereference_found hn).mono
      (Nat.mul_le_mul_left n (Nat.mul_le_mul_right n (by omega)))
  | riskyCalls =>
    obtain rfl := Except.ok.inj h
    exact (riskyCall_found i).mono (by omega)
  | userInput =>
    obtain rfl := Except.ok.inj h
    exact (userInput_found i).mono (by omega)
  | resources =>
    obtain rfl := Except.ok.inj h
    exact (resource_found i).mono (by omega)
  | nesting =>
    have hfunctions := hn.functions_le
    have hpos := hn.pos
    exact (nesting_found hi h).mono (by omega)
  | deadCode =>
    obtain rfl := Except.ok.inj h
    exact (deadCode_found i).mono (by omega)

lemma issuesOf_found (hi : i.Regular) (hn : i.Within n) {rules : List HazardRule}
    {issues : List Issue}
    (h : HazardRule.issuesOf i (.ofBlocks i.blocks i.functions) limits rules = .ok issues) :
    Found i (rules.length * (n * (3 * n))) issues := by
  induction rules generalizing issues with
  | nil =>
    obtain rfl := Except.ok.inj h
    exact Found.nil _
  | cons rule rules ih =>
    rw [HazardRule.issuesOf] at h
    split at h
    · cases h
    · next found hfound =>
      obtain ⟨rest, hrest, rfl⟩ := except_map_eq_ok h
      rw [List.length_cons, Nat.succ_mul, Nat.add_comm]
      exact (rule_found hi hn rule hfound).append (ih hrest)

theorem scanHazards_found (hi : i.Regular) (hn : i.Within n) {issues : List Issue}
    (h : scanHazards i (.ofBlocks i.blocks i.functions) limits = .ok issues) :
    Found i (8 * (n * (3 * n))) issues :=
  issuesOf_found hi hn h

end SourceGrade.Proofs
