import Mathlib.Data.List.Forall2
import SourceGrade.Proofs.FirstOccurrences

/-!
# Divisions outside functions

The scope of a line outside all functions is the whole unit, so a guard inside a function protects
the divisions after it that stand outside. What else the functions contain makes no difference to
these divisions.
-/

namespace SourceGrade

namespace Inspection

/-- The numbers and the code of the lines outside functions that have code. -/
def outsideCode (i : Inspection) : List (Nat × Text) :=
  (i.codeLines.filter fun l => i.isOutside l.number).map fun l => (l.number, l.code)

/-- Whether a line inside a function, up to the line of an occurrence, shows a guard of it. -/
def isGuardedInside (i : Inspection) (o : Occurrence) : Bool :=
  i.statements.any fun l =>
    !i.isOutside l.number && decide (l.number ≤ o.line.number) && l.shows o.guards

/-- The lines and the descriptions of the issues outside functions. -/
def outsideReports (i : Inspection) (issues : List Issue) : List (Option Int × Text) :=
  (issues.filter fun x => x.line?.any fun n => i.isOutside n.toNat).map (·.report)

/-- Two units have the same functions, and outside these the same code. -/
structure AgreeOutside (i i' : Inspection) : Prop where
  functions : i.functions = i'.functions
  directiveMark : i.source.language.directiveMark = i'.source.language.directiveMark
  code : i.outsideCode = i'.outsideCode

/-- The lines of `outsideCode` that are not meant for the compiler. -/
def outsideStatements (i : Inspection) : List (Nat × Text) :=
  (i.statements.filter fun l => i.isOutside l.number).map fun l => (l.number, l.code)

end Inspection

namespace Division

/-- The divisions on the lines outside functions, in order. -/
def outsideOperations (i : Inspection) : List (SourceLine × Match) :=
  (operations i).filter fun op => i.isOutside op.1.number

/-- What two findings have in common that are reported alike. -/
def Finding.summary (f : Finding) : Nat × Text × Text := (f.line.number, f.divisor, f.description)

end Division

namespace Proofs

open Inspection (AgreeOutside)

variable {i i' : Inspection}

/-! ### Units that agree outside functions -/

lemma isOutside_congr (h : AgreeOutside i i') (line : Nat) :
    i.isOutside line = i'.isOutside line := by
  unfold Inspection.isOutside Inspection.functionAt?
  rw [h.functions]

lemma scopeKey_congr (h : AgreeOutside i i') (line : Nat) : i.scopeKey line = i'.scopeKey line := by
  unfold Inspection.scopeKey Inspection.functionAt?
  rw [h.functions]

lemma isOutside_eq (i : Inspection) (line : Nat) : i.isOutside line = (i.scopeKey line).isNone := by
  unfold Inspection.isOutside Inspection.scopeKey
  rw [Option.isNone_map]

lemma outsideStatements_eq (i : Inspection) : i.outsideStatements =
    i.outsideCode.filter fun x => !(!i.source.language.directiveMark.isEmpty &&
      Text.startsWith i.source.language.directiveMark (Text.strip x.2)) := by
  unfold Inspection.outsideStatements Inspection.outsideCode Inspection.statements
  rw [List.filter_map, List.filter_comm]
  rfl

lemma outsideStatements_congr (h : AgreeOutside i i') :
    i.outsideStatements = i'.outsideStatements := by
  rw [outsideStatements_eq, outsideStatements_eq, h.code, h.directiveMark]

/-! ### Guards of what stands outside -/

lemma isGuarded_outside (hi : i.statements.Pairwise (·.number < ·.number)) {o : Occurrence}
    (ho : i.isOutside o.line.number = true) :
    o.isGuarded i = (i.outsideStatements.any (fun x => decide (x.1 ≤ o.line.number) &&
      o.guards.any (·.occursIn (compact x.2))) || i.isGuardedInside o) := by
  have hscope : i.scope o.line.number = i.statements := by
    unfold Inspection.scope
    rw [Option.isNone_iff_eq_none.mp ho]
  unfold Occurrence.isGuarded
  rw [hscope, Bool.eq_iff_iff, guarded_iff hi]
  simp only [Inspection.outsideStatements, Inspection.isGuardedInside, Bool.or_eq_true,
    List.any_eq_true, List.mem_map, List.mem_filter, Bool.and_eq_true, decide_eq_true_iff,
    Bool.not_eq_true']
  constructor
  · rintro ⟨l, hl, hle, hshows⟩
    cases hside : i.isOutside l.number with
    | true => exact .inl ⟨_, ⟨l, ⟨hl, hside⟩, rfl⟩, hle, List.any_eq_true.mp hshows⟩
    | false => exact .inr ⟨l, hl, ⟨hside, hle⟩, hshows⟩
  · rintro (⟨-, ⟨l, ⟨hl, -⟩, rfl⟩, hle, hshows⟩ | ⟨l, hl, ⟨-, hle⟩, hshows⟩)
    · exact ⟨l, hl, hle, List.any_eq_true.mpr hshows⟩
    · exact ⟨l, hl, hle, hshows⟩

lemma isGuarded_congr (h : AgreeOutside i i') (hi : i.statements.Pairwise (·.number < ·.number))
    (hi' : i'.statements.Pairwise (·.number < ·.number)) {o : Occurrence}
    (ho : i.isOutside o.line.number = true) (hinside : i.isGuardedInside o = i'.isGuardedInside o) :
    o.isGuarded i = o.isGuarded i' := by
  rw [isGuarded_outside hi ho, isGuarded_outside hi' (isOutside_congr h _ ▸ ho),
    outsideStatements_congr h, hinside]

/-! ### Judging -/

lemma judge_congr {l l' : SourceLine} {m : Match} (hnumber : l.number = l'.number)
    (hcode : l.code = l'.code)
    (hguarded : ∀ o, Division.occurrence? l m = some o → o.isGuarded i = o.isGuarded i') :
    (Division.judge i l m).map (Option.map (·.summary)) =
      (Division.judge i' l' m).map (Option.map (·.summary)) := by
  unfold Division.judge
  dsimp only
  rw [← hnumber, ← hcode]
  split
  · rfl
  · next hregex =>
    split
    · rfl
    · next divisor hdivisor =>
      split
      · rfl
      · rfl
      · simp [Except.map, Division.Finding.summary, hnumber]
      · next hvalue =>
        by_cases hempty : (Division.terms divisor).isEmpty = true
        · simp [hempty]
        · have hterms : Division.terms divisor ≠ [] := by simpa using hempty
          have ho : Division.occurrence? l m = some (Division.occurrenceOf l divisor) := by
            simp [Division.occurrence?, hregex, hdivisor, hvalue, hterms]
          have hsame := hguarded _ ho
          unfold Occurrence.isGuarded Division.occurrenceOf at hsame
          dsimp only at hsame
          rw [hsame]
          split
          · rfl
          · simp [Except.map, Division.Finding.summary, hnumber]

lemma judgeAll_summary (op : SourceLine × Match) (ops : List (SourceLine × Match)) :
    (Division.judgeAll i (op :: ops)).map (List.map (·.summary)) =
      ((Division.judge i op.1 op.2).map (Option.map (·.summary))).bind fun finding =>
        ((Division.judgeAll i ops).map (List.map (·.summary))).map (finding.toList ++ ·) := by
  rw [Division.judgeAll]
  cases Division.judge i op.1 op.2 with
  | error e => rfl
  | ok finding =>
    cases Division.judgeAll i ops with
    | error e => rfl
    | ok rest => simp [Except.map, Except.bind, Option.toList_map]

lemma judgeAll_congr {ops ops' : List (SourceLine × Match)}
    (h : List.Forall₂ (fun op op' => (Division.judge i op.1 op.2).map (Option.map (·.summary)) =
      (Division.judge i' op'.1 op'.2).map (Option.map (·.summary))) ops ops') :
    (Division.judgeAll i ops).map (List.map (·.summary)) =
      (Division.judgeAll i' ops').map (List.map (·.summary)) := by
  induction h with
  | nil => rfl
  | cons hop _ ih => rw [judgeAll_summary, judgeAll_summary, hop, ih]

lemma judgeAll_filter (p : SourceLine → Bool) {ops : List (SourceLine × Match)}
    {findings : List Division.Finding} (h : Division.judgeAll i ops = .ok findings) :
    Division.judgeAll i (ops.filter fun op => p op.1) =
      .ok (findings.filter fun f => p f.line) := by
  induction ops generalizing findings with
  | nil =>
    obtain rfl := Except.ok.inj h
    rfl
  | cons op ops ih =>
    obtain ⟨l, m⟩ := op
    rw [Division.judgeAll] at h
    split at h
    · cases h
    · next finding hfinding =>
      obtain ⟨rest, hrest, rfl⟩ := except_map_eq_ok h
      have hline : ∀ f ∈ finding.toList, f.line = l := by
        intro f hf
        rw [Option.mem_toList.mp hf] at hfinding
        exact judge_line hfinding
      by_cases hp : p l = true
      · have hkept : finding.toList.filter (fun f => p f.line) = finding.toList :=
          List.filter_eq_self.mpr fun f hf => by rw [hline f hf, hp]
        have hops : ((l, m) :: ops).filter (fun op => p op.1) =
            (l, m) :: ops.filter fun op => p op.1 := List.filter_cons_of_pos hp
        rw [hops, Division.judgeAll, hfinding]
        dsimp only
        rw [ih hrest, List.filter_append, hkept]
        rfl
      · have hnone : finding.toList.filter (fun f => p f.line) = [] :=
          List.filter_eq_nil_iff.mpr fun f hf => by rwa [hline f hf]
        have hops : ((l, m) :: ops).filter (fun op => p op.1) = ops.filter fun op => p op.1 :=
          List.filter_cons_of_neg hp
        rw [hops, ih hrest, List.filter_append, hnone, List.nil_append]

/-! ### Reports -/

lemma outsideOperations_eq (i : Inspection) :
    (Division.outsideOperations i).map (fun op => ((op.1.number, op.1.code), op.2)) =
      i.outsideStatements.flatMap fun x => (Division.operation.all x.2).map (x, ·) := by
  unfold Division.outsideOperations Division.operations Inspection.outsideStatements
  induction i.statements with
  | nil => rfl
  | cons l ls ih =>
    rw [List.flatMap_cons, List.filter_append, List.map_append, ih]
    cases hside : i.isOutside l.number with
    | true => simp [hside, List.filter_map, Function.comp_def]
    | false => simp [hside, List.filter_map, Function.comp_def]

lemma outsideOperations_forall₂ (h : AgreeOutside i i') :
    List.Forall₂ (fun op op' : SourceLine × Match => op.1.number = op'.1.number ∧
      op.1.code = op'.1.code ∧ op.2 = op'.2)
        (Division.outsideOperations i) (Division.outsideOperations i') := by
  have heq : (Division.outsideOperations i).map (fun op => ((op.1.number, op.1.code), op.2)) =
      (Division.outsideOperations i').map (fun op => ((op.1.number, op.1.code), op.2)) := by
    rw [outsideOperations_eq, outsideOperations_eq, outsideStatements_congr h]
  rw [← List.forall₂_eq_eq_eq, List.forall₂_map_left_iff, List.forall₂_map_right_iff] at heq
  refine heq.imp fun op op' hop => ?_
  obtain ⟨hline, hmatch⟩ := Prod.mk.inj hop
  obtain ⟨hnumber, hcode⟩ := Prod.mk.inj hline
  exact ⟨hnumber, hcode, hmatch⟩

lemma outsideReports_eq {issues : List Issue} {findings : List Division.Finding}
    (h : Division.judgeAll i (Division.operations i) = .ok findings)
    (hissues : Division.issues i = .ok issues) :
    ∃ found, Division.judgeAll i (Division.outsideOperations i) = .ok found ∧
      i.outsideReports issues = (firstOfKey (fun x => (i.scopeKey x.1, x.2.1)) []
        (found.map (·.summary))).map fun x => (some (x.1 : Int), x.2.2) := by
  refine ⟨findings.filter fun f => i.isOutside f.line.number,
    judgeAll_filter (fun l => i.isOutside l.number) h, ?_⟩
  rw [Division.issues, h] at hissues
  obtain rfl := Except.ok.inj hissues
  have hkey : ∀ f ∈ findings, ∀ g ∈ findings,
      (i.scopeKey f.line.number, f.divisor) = (i.scopeKey g.line.number, g.divisor) →
        i.isOutside f.line.number = i.isOutside g.line.number := by
    intro f _ g _ heq
    rw [isOutside_eq, isOutside_eq, (Prod.mk.inj heq).1]
  have hfirst := filter_firstOfKey hkey []
  rw [firstOfKey_map, List.map_map]
  change _ = (firstOfKey (fun f : Division.Finding => (i.scopeKey f.line.number, f.divisor)) []
    (findings.filter fun f => i.isOutside f.line.number)).map _
  rw [← hfirst]
  unfold Inspection.outsideReports
  rw [List.filter_map, List.map_map]
  rfl

/-- Units that agree outside functions have the same issues there, if the divisions there have the
same guards inside. -/
lemma outsideReports_congr (h : AgreeOutside i i')
    (hi : i.statements.Pairwise (·.number < ·.number))
    (hi' : i'.statements.Pairwise (·.number < ·.number))
    (hinside : ∀ o ∈ Division.occurrences i, i.isOutside o.line.number = true →
      i.isGuardedInside o = i'.isGuardedInside o) {issues issues' : List Issue}
    (hissues : Division.issues i = .ok issues) (hissues' : Division.issues i' = .ok issues') :
    i.outsideReports issues = i'.outsideReports issues' := by
  obtain ⟨findings, hfindings, -⟩ := except_map_eq_ok hissues
  obtain ⟨findings', hfindings', -⟩ := except_map_eq_ok hissues'
  obtain ⟨found, hfound, hreports⟩ := outsideReports_eq hfindings hissues
  obtain ⟨found', hfound', hreports'⟩ := outsideReports_eq hfindings' hissues'
  have hjudged : List.Forall₂ (fun op op' => (Division.judge i op.1 op.2).map
      (Option.map (·.summary)) = (Division.judge i' op'.1 op'.2).map (Option.map (·.summary)))
        (Division.outsideOperations i) (Division.outsideOperations i') := by
    have hmem : List.Forall₂ (fun op op' : SourceLine × Match => op ∈ Division.outsideOperations i ∧
        op.1.number = op'.1.number ∧ op.1.code = op'.1.code ∧ op.2 = op'.2)
          (Division.outsideOperations i) (Division.outsideOperations i') :=
      (List.forall₂_and_left _ _).mpr ⟨fun _ => id, outsideOperations_forall₂ h⟩
    refine hmem.imp ?_
    rintro ⟨l, m⟩ ⟨l', m'⟩ ⟨hop, hnumber, hcode, rfl⟩
    obtain ⟨hop, hside⟩ := List.mem_filter.mp hop
    refine judge_congr hnumber hcode fun o ho => ?_
    have hline : o.line = l := by
      obtain ⟨divisor, -, rfl⟩ := occurrence?_eq_some ho
      rfl
    rw [← hline] at hside
    have hoccurs : o ∈ Division.occurrences i := List.mem_filterMap.mpr ⟨(l, m), hop, ho⟩
    exact isGuarded_congr h hi hi' hside (hinside o hoccurs hside)
  have hsummary : found.map (·.summary) = found'.map (·.summary) := by
    have hboth := judgeAll_congr hjudged
    rw [hfound, hfound'] at hboth
    exact Except.ok.inj hboth
  have hkeys : (fun x : Nat × Text × Text => (i.scopeKey x.1, x.2.1)) =
      fun x => (i'.scopeKey x.1, x.2.1) := by
    funext x
    rw [scopeKey_congr h]
  rw [hreports, hreports', hsummary, hkeys]

lemma report_not_mem_of_guarded (hi : i.statements.Pairwise (·.number < ·.number))
    (hfunctions : i.functions.Pairwise (·.startLine < ·.startLine)) {issues : List Issue}
    (h : Division.issues i = .ok issues) {o : Occurrence} (ho : o ∈ Division.occurrences i)
    (hguarded : o.isGuarded i = true) :
    (some (o.line.number : Int), o.description) ∉ issues.map (·.report) := by
  intro hmem
  obtain ⟨x, hx, hreport⟩ := List.mem_map.mp hmem
  obtain ⟨hline, hdescription⟩ := Prod.mk.inj hreport
  obtain ⟨first, hfind, hlines⟩ := (division_reportsFirst hi hfunctions h).reported o ho
  obtain ⟨l, divisor, -, rfl⟩ := mem_occurrences ho
  have habout : (Division.occurrenceOf l divisor).isAbout i x = true := by
    simp [Occurrence.isAbout, hline, hdescription]
  have hkept : x ∈ (issues.filter (·.description != Division.zeroDescription)).filter
      ((Division.occurrenceOf l divisor).isAbout i) := by
    refine List.mem_filter.mpr ⟨List.mem_filter.mpr ⟨hx, ?_⟩, habout⟩
    rw [hdescription]
    exact bne_iff_ne.mpr (uncheckedDescription_ne_zero divisor)
  have hmem := List.mem_map_of_mem (f := (·.line?)) hkept
  rw [hlines] at hmem
  split at hmem
  · cases hmem
  · next hfirst =>
    -- the issue is on the line of the first occurrence, so both have one guard
    have hnumber : first.line.number = l.number := by
      rw [List.mem_singleton, hline] at hmem
      exact (Int.ofNat.inj (Option.some.inj hmem)).symm
    have hsubject := (sameKey_iff.mp (List.find?_some hfind)).2
    obtain ⟨l', divisor', -, rfl⟩ := mem_occurrences (List.mem_of_find?_eq_some hfind)
    obtain rfl : divisor = divisor' := List.singleton_inj.mp hsubject
    apply hfirst
    unfold Occurrence.isGuarded at hguarded ⊢
    rwa [hnumber]

/-! ### Texts -/

/-- A division outside functions is not reported if a guard of it is shown inside a function before
it. Nothing else inside functions counts: two texts with the same functions, and the same code
outside, get the same issues on the lines outside functions, if each division there has a guard
inside functions in both texts or in none. -/
theorem ofText_outside_divisions (l : Language) (t : Text) (blocks : BlockMap)
    {issues : List Issue} :
    let s := Source.ofText l t
    let i : Inspection := ⟨s, blocks, s.functions⟩
    Division.issues i = .ok issues →
      (∀ o ∈ Division.occurrences i, i.isOutside o.line.number = true →
        i.isGuardedInside o = true →
          (some (o.line.number : Int), o.description) ∉ i.outsideReports issues) ∧
      ∀ (l' : Language) (t' : Text) (blocks' : BlockMap) (issues' : List Issue),
        let s' := Source.ofText l' t'
        let i' : Inspection := ⟨s', blocks', s'.functions⟩
        Division.issues i' = .ok issues' → AgreeOutside i i' →
          (∀ o ∈ Division.occurrences i, i.isOutside o.line.number = true →
            i.isGuardedInside o = i'.isGuardedInside o) →
            i.outsideReports issues = i'.outsideReports issues' := by
  intro s i hissues
  have hi : i.statements.Pairwise (·.number < ·.number) :=
    ofText_statements_pairwise l t blocks s.functions
  constructor
  · intro o ho hside hinside hmem
    have hguarded : o.isGuarded i = true := by
      rw [isGuarded_outside hi hside, hinside, Bool.or_true]
    have hfunctions : i.functions.Pairwise (·.startLine < ·.startLine) :=
      functionsFrom_pairwise s.language (ofText_pairwise l t)
    have hsubset : i.outsideReports issues ⊆ issues.map (·.report) :=
      List.map_subset _ (List.filter_subset_self _)
    exact report_not_mem_of_guarded hi hfunctions hissues ho hguarded (hsubset hmem)
  · intro l' t' blocks' issues' s' i' hissues' hagree hinside
    exact outsideReports_congr hagree hi (ofText_statements_pairwise l' t' blocks' s'.functions)
      hinside hissues hissues'

/-- A function that compares a name with zero, before a division by `n` outside it. -/
def comparing (name : Text) : Text :=
  "def f(n):\n    if " ++ name ++ " > 0:\n        return 1\nx = 1 / n"

/-- The unit of `comparing`. -/
def comparingUnit (name : Text) : Inspection :=
  let s := Source.ofText (Language.resolve "python") (comparing name)
  ⟨s, ⟨[[.other], [.other, .conditional], [.other, .conditional], []]⟩, s.functions⟩

lemma comparing_agree {name name' : Text}
    (h : (comparingUnit name).functions = (comparingUnit name').functions ∧
      (comparingUnit name).outsideCode = (comparingUnit name').outsideCode) :
    AgreeOutside (comparingUnit name) (comparingUnit name') := ⟨h.1, rfl, h.2⟩

/-- Comparisons of names that are not divided by make no difference. -/
theorem ofText_outside_divisions_comparing :
    let i := comparingUnit "m"
    let i' := comparingUnit "k"
    let report : Option Int × Text := (some 4, "Unchecked division by 'n' fails when it is zero")
    ∃ issues issues', Division.issues i = .ok issues ∧ Division.issues i' = .ok issues' ∧
      i.outsideReports issues = [report] ∧ i'.outsideReports issues' = [report] := by
  intro i i' report
  obtain ⟨hreports, hok, hinside, hagree⟩ :
      (Division.issues i).toOption.map i.outsideReports = some [report] ∧
        (Division.issues i').toOption.isSome = true ∧
        (∀ o ∈ Division.occurrences i, i.isOutside o.line.number = true →
          i.isGuardedInside o = i'.isGuardedInside o) ∧
        i.functions = i'.functions ∧ i.outsideCode = i'.outsideCode := by decide +kernel
  cases hissues : Division.issues i with
  | error e =>
    rw [hissues] at hreports
    cases hreports
  | ok issues =>
    cases hissues' : Division.issues i' with
    | error e =>
      rw [hissues'] at hok
      cases hok
    | ok issues' =>
      rw [hissues] at hreports
      have hreports : i.outsideReports issues = [report] := Option.some.inj hreports
      have hmain := (ofText_outside_divisions _ (comparing "m") _ hissues).2 _ (comparing "k") _
        issues' hissues' (comparing_agree hagree) hinside
      exact ⟨issues, issues', rfl, rfl, hreports, hmain.symm.trans hreports⟩

/-- A comparison of `n` inside the function protects the division, and one of `m` does not. -/
theorem outside_divisions_protected :
    let i := comparingUnit "n"
    let i' := comparingUnit "m"
    let report : Option Int × Text := (some 4, "Unchecked division by 'n' fails when it is zero")
    BlockMap.ofSource i.source = .ok i.blocks ∧ BlockMap.ofSource i'.source = .ok i'.blocks ∧
      AgreeOutside i i' ∧ (Division.issues i).toOption.map i.outsideReports = some [] ∧
      (Division.issues i').toOption.map i'.outsideReports = some [report] := by
  intro i i' report
  obtain ⟨hblocks, hblocks', hagree, hreports, hreports'⟩ :
      BlockMap.ofSource i.source = .ok i.blocks ∧ BlockMap.ofSource i'.source = .ok i'.blocks ∧
        (i.functions = i'.functions ∧ i.outsideCode = i'.outsideCode) ∧
        (Division.issues i).toOption.map i.outsideReports = some [] ∧
        (Division.issues i').toOption.map i'.outsideReports = some [report] := by decide +kernel
  exact ⟨hblocks, hblocks', comparing_agree hagree, hreports, hreports'⟩

end Proofs

end SourceGrade
