import SourceGrade.Analysis.Pool
import SourceGrade.Proofs.IssueGroups
import SourceGrade.Proofs.ReportConsistency

/-!
# Analyses that share a memory

An analysis answers the same whatever descriptions were normalized before it and in whatever order
its detectors finish. Afterwards the memory has exactly the descriptions that it had before and those
that the analysis came to.
-/

namespace SourceGrade

/-- A memory with the normal forms of exactly these descriptions. -/
structure NormalizationCache.Holds (c : NormalizationCache) (asked : List Text) : Prop where
  faithful : c.Faithful
  known_nodup : c.known.Nodup
  mem_known : ∀ d, d ∈ c.known ↔ d ∈ asked

namespace Proofs

open NormalizationCache (Holds known_getOrCompute faithful_empty size_eq_card)

/-! ### Descriptions -/

lemma holds_empty : NormalizationCache.empty.Holds [] where
  faithful := faithful_empty
  known_nodup := List.nodup_nil
  mem_known _ := Iff.rfl

section

variable {c : NormalizationCache} {asked : List Text}

lemma holds_congr (h : c.Holds asked) {asked' : List Text} (hiff : ∀ d, d ∈ asked ↔ d ∈ asked') :
    c.Holds asked' where
  faithful := h.faithful
  known_nodup := h.known_nodup
  mem_known d := (h.mem_known d).trans (hiff d)

lemma size_of_holds (h : c.Holds asked) : c.size = asked.toFinset.card :=
  size_eq_card h.known_nodup h.mem_known

lemma holds_getOrCompute (h : c.Holds asked) (key : Text) :
    (c.getOrCompute normalizeDescription key).2.Holds (key :: asked) where
  faithful := (h.faithful.getOrCompute key).2
  known_nodup := by
    rw [known_getOrCompute]
    split
    · exact h.known_nodup
    · next hnew => exact List.nodup_cons.mpr ⟨hnew, h.known_nodup⟩
  mem_known d := by
    rw [known_getOrCompute, List.mem_cons, ← h.mem_known d]
    split
    · next hmem =>
      refine ⟨.inr, ?_⟩
      rintro (rfl | hd)
      · exact hmem
      · exact hd
    · exact List.mem_cons

lemma holds_bucketsFrom (h : c.Holds asked) (family : List Category)
    (buckets : List (GroupKey × Issue × List Issue)) (issues : List Issue) :
    (bucketsFrom family c buckets issues).2.Holds
      ((inFamily family issues).map (·.description) ++ asked) := by
  induction issues generalizing c asked buckets with
  | nil => exact h
  | cons i issues ih =>
    rw [bucketsFrom, inFamily, List.filter_cons]
    split
    · refine holds_congr (ih (holds_getOrCompute h i.description) _) fun d => ?_
      change d ∈ _ ++ i.description :: asked ↔ d ∈ (i.description :: _) ++ asked
      simp only [List.mem_append, List.mem_cons]
      tauto
    · exact ih h _

lemma holds_aggregate {α ι : Type} [Scalar α] (t : Thresholds ι α) (h : c.Holds asked)
    (family : List Category) (issues : List Issue) :
    (aggregate t family c issues).2.Holds
      ((inFamily family issues).map (·.description) ++ asked) :=
  holds_bucketsFrom h family [] issues

end

lemma bucketsFrom_eq {c c' : NormalizationCache} (hc : c.Faithful) (hc' : c'.Faithful)
    (family : List Category) (buckets : List (GroupKey × Issue × List Issue))
    (issues : List Issue) :
    (bucketsFrom family c buckets issues).1 = (bucketsFrom family c' buckets issues).1 := by
  induction issues generalizing c c' buckets with
  | nil => rfl
  | cons i issues ih =>
    obtain ⟨hvalue, hfaithful⟩ := hc.getOrCompute i.description
    obtain ⟨hvalue', hfaithful'⟩ := hc'.getOrCompute i.description
    rw [bucketsFrom, bucketsFrom]
    split
    · dsimp only
      rw [hvalue, hvalue']
      exact ih hfaithful hfaithful' _
    · exact ih hc hc' _

lemma aggregate_eq {ι α : Type} [Scalar α] (t : Thresholds ι α) {c : NormalizationCache} (hc : c.Faithful)
    (family : List Category) (issues : List Issue) :
    (aggregate t family c issues).1 = (aggregate t family .empty issues).1 :=
  congrArg (fun buckets : List _ => Aggregation.ofGroups t (buckets.map (groupOf t)))
    (bucketsFrom_eq hc faithful_empty family [] issues)

end Proofs

/-! ### Findings -/

variable {ι α : Type} [Limit ι] [Scalar α]

/-- The descriptions of the issues that are aggregated when findings are rated. -/
def Findings.described (t : Thresholds ι α) (f : Findings) : List Text :=
  match f.adjusted t with
  | .error _ => []
  | .ok adjusted =>
    if (Scalar.whole? adjusted).isNone && (Scalar.overflow? adjusted).isSome then []
    else if (Scalar.overflow? (aggregate t Category.reliability .empty f.issues).1.deduction).isSome
    then (Proofs.inFamily Category.reliability f.issues).map (·.description)
    else f.issues.map (·.description)

namespace Proofs

open NormalizationCache (faithful_empty)

lemma mem_families (c : Category) :
    Category.maintainability.contains c = true ∨ Category.reliability.contains c = true := by
  cases c <;> decide

lemma mem_map_inFamily (issues : List Issue) (d : Text) :
    d ∈ (inFamily Category.maintainability issues).map (·.description) ++
      (inFamily Category.reliability issues).map (·.description) ↔
        d ∈ issues.map (·.description) := by
  simp only [inFamily, List.mem_append, List.mem_map, List.mem_filter]
  constructor
  · rintro (⟨i, ⟨hi, -⟩, rfl⟩ | ⟨i, ⟨hi, -⟩, rfl⟩)
    · exact ⟨i, hi, rfl⟩
    · exact ⟨i, hi, rfl⟩
  · rintro ⟨i, hi, rfl⟩
    exact (mem_families i.category).imp (fun hc => ⟨i, ⟨hi, hc⟩, rfl⟩) fun hc => ⟨i, ⟨hi, hc⟩, rfl⟩

variable (t : Thresholds ι α) {c : NormalizationCache} {asked : List Text} (f : Findings)

lemma holds_normsAfter (h : c.Holds asked) :
    (f.normsAfter t c).Holds (f.described t ++ asked) := by
  unfold Findings.normsAfter Findings.described
  cases f.adjusted t with
  | error e => exact h
  | ok adjusted =>
    have hreliability := holds_aggregate t h Category.reliability f.issues
    dsimp only
    rw [aggregate_eq t h.faithful]
    split
    · exact h
    · split
      · exact hreliability
      · refine holds_congr (holds_aggregate t hreliability _ _) fun d => ?_
        rw [← List.append_assoc, List.mem_append, mem_map_inFamily, List.mem_append]

lemma described_eq {adjusted : α} (hadjusted : f.adjusted t = .ok adjusted)
    (hoverflow : Scalar.overflow? adjusted = none) (hdeduction : Scalar.overflow?
      (aggregate t Category.reliability .empty f.issues).1.deduction = none) :
    f.described t = f.issues.map (·.description) := by
  simp only [Findings.described, hadjusted, hoverflow, hdeduction, Option.isSome_none,
    Bool.and_false, Bool.false_eq_true, if_false]

variable [LimitIn ι α] {language : Text}

lemma overflow?_of_inRange {x : α} {u : Unit} (h : inRange x = .ok u) :
    Scalar.overflow? x = none := by
  unfold inRange at h
  split at h
  · cases h
  · assumption

lemma rate_eq (h : c.Holds asked) :
    (f.rate t language c).map (·.1) = (f.rate t language .empty).map (·.1) := by
  have hr := aggregate_eq t h.faithful Category.reliability f.issues
  have hm := (aggregate_eq t (holds_aggregate t h Category.reliability f.issues).faithful
    Category.maintainability f.issues).trans
      (aggregate_eq t (holds_aggregate t holds_empty Category.reliability f.issues).faithful
        Category.maintainability f.issues).symm
  unfold Findings.rate
  generalize aggregate t Category.reliability c f.issues = a at hr hm ⊢
  generalize aggregate t Category.reliability .empty f.issues = a' at hr hm ⊢
  obtain ⟨r, c₁⟩ := a
  obtain ⟨r', c₁'⟩ := a'
  dsimp only at hr hm ⊢
  generalize aggregate t Category.maintainability c₁ f.issues = b at hm ⊢
  generalize aggregate t Category.maintainability c₁' f.issues = b' at hm ⊢
  obtain ⟨m, c₂⟩ := b
  obtain ⟨m', c₂'⟩ := b'
  dsimp only at hm ⊢
  subst hr hm
  simp only [except_map_bind]
  rfl

lemma rate_eq_ok_aggregated {result : Report α × NormalizationCache}
    (h : f.rate t language c = .ok result) :
    ∃ adjusted, f.adjusted t = .ok adjusted ∧ Scalar.overflow? adjusted = none ∧
      Scalar.overflow? (aggregate t Category.reliability c f.issues).1.deduction = none ∧
        result.2 = (aggregate t Category.maintainability
          (aggregate t Category.reliability c f.issues).2 f.issues).2 := by
  obtain ⟨adjusted, hadjusted, h⟩ := bind_eq_ok h
  obtain ⟨_, hreliability, h⟩ := bind_eq_ok h
  obtain ⟨_, -, h⟩ := bind_eq_ok h
  obtain ⟨complexity, hcomplexity, h⟩ := bind_eq_ok h
  obtain ⟨maintainability, -, h⟩ := bind_eq_ok h
  obtain ⟨reliability, -, h⟩ := bind_eq_ok h
  obtain ⟨debt, -, h⟩ := bind_eq_ok h
  obtain rfl := Except.ok.inj h
  obtain ⟨_, hrange, -⟩ := bind_eq_ok hcomplexity
  exact ⟨adjusted, mapError_eq_ok hadjusted, overflow?_of_inRange hrange,
    overflow?_of_inRange hreliability, rfl⟩

lemma normsAfter_of_rate {result : Report α × NormalizationCache}
    (h : f.rate t language c = .ok result) : result.2 = f.normsAfter t c := by
  obtain ⟨adjusted, hadjusted, hoverflow, hdeduction, hresult⟩ := rate_eq_ok_aggregated t f h
  simp only [Findings.normsAfter, hadjusted, hoverflow, hdeduction, hresult, Option.isSome_none,
    Bool.and_false, Bool.false_eq_true, if_false]

lemma described_of_rate {result : Report α × NormalizationCache}
    (h : f.rate t language .empty = .ok result) : f.described t = f.issues.map (·.description) := by
  obtain ⟨adjusted, hadjusted, hoverflow, hdeduction, -⟩ := rate_eq_ok_aggregated t f h
  exact described_eq t f hadjusted hoverflow hdeduction

lemma described_typed (t : Thresholds Int Float) {f : Findings}
    (hcomplexity : (f.complexity.total : Int).natAbs < 2 ^ 200) :
    f.described t.typed = f.issues.map (·.description) := by
  obtain ⟨factor, hfactor, hadjusted⟩ :=
    adjustedComplexity_typed t f.complexity.total f.nesting.unit.depth
  have hfinite : (Binary.nearest f.complexity.total 1).isFinite = true :=
    isFinite_nearest _ 1 (by decide) (by omega)
  have hrange : inRange (Amount.whole f.complexity.total * factor) = .ok () := by
    rw [inRange_whole_mul _ hfactor, if_pos hfinite]
  have hdeduction := inRange_isReal (aggregate_isReal t Category.reliability .empty f.issues)
  exact described_eq t.typed f hadjusted (overflow?_of_inRange hrange)
    (overflow?_of_inRange hdeduction)

end Proofs

/-! ### Texts -/

section

variable {ι α : Type} [Limit ι] [Scalar α]

/-- The descriptions that an analysis normalizes: those of the issues of its report, and without a
report those of the issues that it aggregated. -/
def normalizedBy [LimitIn ι α] (t : Thresholds ι α) (tag text : Text) : List Text :=
  match analyze t tag text with
  | .ok report => report.issues.map (·.description)
  | .error _ =>
    let source := Source.ofText (Language.resolve tag) text
    match BlockMap.ofSource source with
    | .error _ => []
    | .ok blocks => (Findings.ofSource t source blocks).described t

end

namespace Proofs

variable {ι α : Type} [Limit ι] [Scalar α] (t : Thresholds ι α) (schedule : Schedule)
  {c : NormalizationCache} {asked : List Text}

lemma ofSchedule_eq (s : Source) (blocks : BlockMap) :
    Findings.ofSchedule t schedule s blocks = Findings.ofSource t s blocks := by
  simp only [Findings.ofSchedule, Schedule.result_eq]
  rfl

variable [LimitIn ι α] (tag text : Text)

lemma analyzeScheduled_eq (language : Language) :
    analyzeScheduled t schedule c language text = analyzeWith t c language text := by
  unfold analyzeScheduled analyzeWith
  simp only [ofSchedule_eq]

lemma analyzeScheduled_answer (h : c.Holds asked) :
    (analyzeScheduled t schedule c (Language.resolve tag) text).map (·.1) = analyze t tag text := by
  rw [analyzeScheduled_eq]
  unfold analyze analyzeWith
  dsimp only
  rw [except_map_bind, except_map_bind]
  refine congrArg _ (funext fun blocks => ?_)
  rw [except_map_mapError, except_map_mapError, rate_eq t _ h]

variable {tag text}

lemma analyzeScheduled_norms {language : Language} {result : Report α × NormalizationCache}
    (h : analyzeScheduled t schedule c language text = .ok result) :
    result.2 = normsAfter t schedule c language text := by
  obtain ⟨blocks, hblocks, hrate⟩ := bind_eq_ok h
  unfold normsAfter
  dsimp only
  rw [mapError_eq_ok hblocks]
  exact normsAfter_of_rate t _ (mapError_eq_ok hrate)

lemma mem_normalizedBy {blocks : BlockMap}
    (hblocks : BlockMap.ofSource (Source.ofText (Language.resolve tag) text) = .ok blocks)
    (d : Text) : d ∈ normalizedBy t tag text ↔
      d ∈ (Findings.ofSource t (Source.ofText (Language.resolve tag) text) blocks).described t := by
  unfold normalizedBy
  cases hanalyze : analyze t tag text with
  | error e =>
    dsimp only
    rw [hblocks]
  | ok report =>
    obtain ⟨result, hwith, rfl⟩ := except_map_eq_ok hanalyze
    obtain ⟨blocks', hblocks', hrate⟩ := bind_eq_ok hwith
    obtain rfl := Except.ok.inj (hblocks.symm.trans (mapError_eq_ok hblocks'))
    have hrate := mapError_eq_ok hrate
    rw [described_of_rate t _ hrate]
    dsimp only
    rw [(rate_eq_ok hrate).issues_eq]
    exact ((orderIssues_perm _).map _).mem_iff

lemma holds_after (tag text : Text) (h : c.Holds asked) :
    (normsAfter t schedule c (Language.resolve tag) text).Holds
      (normalizedBy t tag text ++ asked) := by
  unfold normsAfter
  dsimp only
  cases hblocks : BlockMap.ofSource (Source.ofText (Language.resolve tag) text) with
  | error e =>
    have hanalyze : analyze t tag text = .error (.blocks e) := by
      unfold analyze analyzeWith
      dsimp only
      rw [hblocks]
      rfl
    have hnone : normalizedBy t tag text = [] := by
      unfold normalizedBy
      rw [hanalyze]
      dsimp only
      rw [hblocks]
    rw [hnone]
    exact h
  | ok blocks =>
    dsimp only
    rw [ofSchedule_eq]
    refine holds_congr (holds_normsAfter t _ h) fun d => ?_
    rw [List.mem_append, List.mem_append, mem_normalizedBy t hblocks]

end Proofs

end SourceGrade
