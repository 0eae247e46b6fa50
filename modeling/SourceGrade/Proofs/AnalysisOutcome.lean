import Mathlib.Data.Nat.Digits.Lemmas
import SourceGrade.Proofs.DoubleRange
import SourceGrade.Proofs.ForeignWords
import SourceGrade.Proofs.FoundIssues
import SourceGrade.Proofs.RatedFindings

/-!
# The outcome of an analysis

With thresholds of whole numbers and doubles, an analysis ends with a report unless the code has a
foreign word in a language of braces, or its time of development has too many digits to be written.
-/

namespace SourceGrade.Proofs

/-! ### Amounts of a text -/

lemma resolve_mem (tag : Text) : Language.resolve tag ∈ Language.table := by
  unfold Language.resolve
  cases hfind : Language.find? tag with
  | none => simp [Language.table]
  | some l => exact List.mem_of_find?_eq_some hfind

lemma remediationOf_found {i : Inspection} {n : Nat} {issues : List Issue}
    (h : i.Found n issues) : 0 ≤ remediationOf issues ∧ remediationOf issues ≤ 60 * n := by
  have hissues : 0 ≤ remediationOf issues ∧ remediationOf issues ≤ 60 * issues.length := by
    obtain ⟨-, hreports⟩ := h
    induction issues with
    | nil => exact ⟨le_rfl, le_rfl⟩
    | cons issue issues ih =>
      obtain ⟨hissue, hrest⟩ := List.forall_mem_cons.mp hreports
      have hsum : remediationOf (issue :: issues) =
        issue.remediationMinutes + remediationOf issues := rfl
      have hle := remediationMinutes_le hissue
      have := ih hrest
      rw [hsum, List.length_cons]
      omega
  have hlength := h.length_le
  omega

lemma complexity_le {l : Language} (hl : l ∈ Language.table) (text : Text)
    (functions : List FunctionSpan) :
    (Complexity.ofSource (Source.ofText l text) functions).total ≤ 1 + 16 * (text.length + 1) := by
  have hpoints := decisionPoints_le (Source.ofText l text).language.decisions
    (Source.ofText l text).lines
  rw [ofText_language] at hpoints
  have hbound := Nat.mul_le_mul (table_decisions l hl) (extent_ofText l text)
  change 1 + Complexity.decisionPoints (Source.ofText l text).language.decisions _ ≤ _
  rw [ofText_language]
  omega

lemma two_pow_le_tenTo {k : Int} (hk : 200 ≤ k) : 2 ^ 200 ≤ tenTo k := by
  calc 2 ^ 200 ≤ 10 ^ 200 := Nat.pow_le_pow_left (by omega) 200
    _ ≤ 10 ^ k.toNat := Nat.pow_le_pow_right (by omega) (by omega)

lemma unwritable_le_iff (n : Nat) : Debt.unwritable ≤ n ↔ 4300 < (Nat.digits 10 n).length := by
  have hdigits : ∀ k : Nat, tenTo k ≤ n ↔ k < (Nat.digits 10 n).length := fun k =>
    (Nat.lt_digits_length_iff (by decide) n).symm
  exact hdigits 4300

lemma refusal?_of_lt {complexity remediation : Int} (hcomplexity : complexity.natAbs < 2 ^ 200)
    (hremediation : remediation.natAbs < 2 ^ 200) (development : Int) :
    refusal? complexity remediation development =
      if Debt.unwritable ≤ development.natAbs then some .digits else none := by
  have hfinite : (Binary.nearest complexity 1).isFinite = true :=
    isFinite_nearest complexity 1 (by decide) (by omega)
  have hratio : ¬(development ≠ 0 ∧ (Binary.nearest
      (if development < 0 then -remediation else remediation)
        development.natAbs).isFinite = false) := by
    rintro ⟨hzero, hinfinite⟩
    have hpos : 0 < development.natAbs := Int.natAbs_pos.mpr hzero
    have habs : (if development < 0 then -remediation else remediation).natAbs =
        remediation.natAbs := by
      split
      · exact Int.natAbs_neg remediation
      · rfl
    have hlt : (if development < 0 then -remediation else remediation).natAbs <
        development.natAbs * 2 ^ 200 := by
      rw [habs]
      exact hremediation.trans_le (Nat.le_mul_of_pos_left _ hpos)
    rw [isFinite_nearest _ _ hpos hlt] at hinfinite
    cases hinfinite
  have hwritable : ¬Debt.unwritable ≤ remediation.natAbs := by
    have hpow : 2 ^ 200 ≤ Debt.unwritable := two_pow_le_tenTo (by decide)
    omega
  unfold refusal?
  rw [if_neg (by rw [hfinite]; decide), if_neg hratio]
  generalize Debt.unwritable = bound at hwritable ⊢
  simp only [hwritable, false_or]

/-! ### Analyses -/

variable (t : Thresholds Int Float) {tag text : Text}

lemma analyze_of_error {e : BlockError}
    (h : BlockMap.ofSource (Source.ofText (Language.resolve tag) text) = .error e) :
    analyze t.typed tag text = .error (.blocks e) := by
  unfold analyze analyzeWith
  dsimp only
  rw [h]
  rfl

lemma analyze_of_ok {blocks : BlockMap}
    (h : BlockMap.ofSource (Source.ofText (Language.resolve tag) text) = .ok blocks) :
    let f := Findings.ofSource t.typed (Source.ofText (Language.resolve tag) text) blocks
    match refusal? f.complexity.total (remediationOf f.issues)
      (f.size.linesOfCode * t.developmentMinutesPerLine) with
    | some reason => analyze t.typed tag text = .error (.rating (.overflow reason))
    | none => ∃ report, analyze t.typed tag text = .ok report := by
  intro f
  have hrate := rate_typed t (Language.resolve tag).name .empty f
  have hanalyze : analyze t.typed tag text =
      ((f.rate t.typed (Language.resolve tag).name .empty).mapError .rating).map (·.1) := by
    unfold analyze analyzeWith
    dsimp only
    rw [h]
    rfl
  rw [hanalyze]
  cases hrefusal : refusal? f.complexity.total (remediationOf f.issues)
      (f.size.linesOfCode * t.developmentMinutesPerLine) with
  | some reason =>
    simp only [hrefusal] at hrate
    rw [hrate]
    rfl
  | none =>
    simp only [hrefusal] at hrate
    obtain ⟨result, hresult⟩ := hrate
    rw [hresult]
    exact ⟨result.1, rfl⟩

lemma amounts_lt {l : Language} (hl : l ∈ Language.table) {text : Text} {blocks : BlockMap}
    (h : BlockMap.ofSource (Source.ofText l text) = .ok blocks) (htext : text.length < 2 ^ 63) :
    let f := Findings.ofSource t.typed (Source.ofText l text) blocks
    (f.complexity.total : Int).natAbs < 2 ^ 200 ∧ (remediationOf f.issues).natAbs < 2 ^ 200 := by
  intro f
  have hcomplexity : f.complexity.total ≤ 1 + 16 * (text.length + 1) := complexity_le hl text _
  obtain ⟨hnonneg, hremediation⟩ := remediationOf_found (ofSource_issues_found l text t.typed h)
  have hsquare : (text.length + 1) * (3 * (text.length + 1)) ≤ 2 ^ 63 * (3 * 2 ^ 63) :=
    Nat.mul_le_mul htext (Nat.mul_le_mul_left 3 htext)
  change 0 ≤ remediationOf f.issues at hnonneg
  change remediationOf f.issues ≤ _ at hremediation
  constructor <;> omega

/-- The outcome of an analysis with thresholds of whole numbers and doubles. It fails for a foreign
word in the code of a language of braces. Without such a word it fails when an amount is out of
range, which for a text that a computer can hold is the time of development alone; otherwise there
is a report. -/
theorem analyze_outcome (t : Thresholds Int Float) (tag text : Text) :
    let s := Source.ofText (Language.resolve tag) text
    let development := (Size.ofSource s).linesOfCode * t.developmentMinutesPerLine
    let foreign := (Language.resolve tag).blockStyle = .braces ∧
      ∃ line ∈ s.lines, ForeignRun line.code
    (analyze t.typed tag text = .error (.blocks .foreignWord) ↔ foreign) ∧
      (∀ blocks, BlockMap.ofSource s = .ok blocks →
        let f := Findings.ofSource t.typed s blocks
        match refusal? f.complexity.total (remediationOf f.issues) development with
        | some reason => analyze t.typed tag text = .error (.rating (.overflow reason))
        | none => ∃ report, analyze t.typed tag text = .ok report) ∧
      (text.length < 2 ^ 63 → ¬foreign →
        if 4300 < (Nat.digits 10 development.natAbs).length then
          analyze t.typed tag text = .error (.rating (.overflow .digits))
        else ∃ report, analyze t.typed tag text = .ok report) := by
  intro s development foreign
  have hforeign : BlockMap.ofSource s = .error .foreignWord ↔ foreign := by
    have := blockMap_error s
    rwa [ofText_language] at this
  refine ⟨?_, fun blocks hblocks => analyze_of_ok t hblocks, ?_⟩
  · rw [← hforeign]
    constructor
    · intro h
      cases hblocks : BlockMap.ofSource s with
      | error e => rfl
      | ok blocks =>
        have houtcome := analyze_of_ok t hblocks
        dsimp only at houtcome
        rw [h] at houtcome
        split at houtcome
        · cases houtcome
        · obtain ⟨report, hreport⟩ := houtcome
          cases hreport
    · exact analyze_of_error t
  · intro htext hno
    cases hblocks : BlockMap.ofSource s with
    | error e => exact absurd (hforeign.mp hblocks) hno
    | ok blocks =>
      have houtcome := analyze_of_ok t hblocks
      obtain ⟨hcomplexity, hremediation⟩ := amounts_lt t (resolve_mem tag) hblocks htext
      have hdevelopment : ((Findings.ofSource t.typed (Source.ofText (Language.resolve tag) text)
          blocks).size.linesOfCode : Int) * t.developmentMinutesPerLine = development := rfl
      dsimp only at houtcome
      rw [refusal?_of_lt hcomplexity hremediation, hdevelopment] at houtcome
      by_cases hdigits : 4300 < (Nat.digits 10 development.natAbs).length
      · rw [if_pos hdigits]
        rwa [if_pos ((unwritable_le_iff _).mpr hdigits)] at houtcome
      · rw [if_neg hdigits]
        rwa [if_neg fun h => hdigits ((unwritable_le_iff _).mp h)] at houtcome

/-- The thresholds in use when none are given, with another time for a line of code. -/
def slowWriting (minutesPerLine : Int) : Thresholds Int Float :=
  { Thresholds.defaultsOf id Binary.nearest with developmentMinutesPerLine := minutesPerLine }

/-- Two lines of code without a foreign word get no report when each takes so long to write that
the time for both has too many digits. -/
theorem analyze_outcome_digits :
    analyze (slowWriting (5 * tenTo 4299)).typed "python" "a = 1\nb = 2" =
      .error (.rating (.overflow .digits)) := by
  have htwice : ∀ k : Nat, tenTo (k + 1 : Nat) ≤ (2 * (5 * tenTo k) : Int).natAbs := by
    intro k
    have hnext : tenTo (k + 1 : Nat) = tenTo k * 10 := Nat.pow_succ 10 k
    rw [hnext]
    omega
  suffices hfails : ∀ minutes : Int, Debt.unwritable ≤ (2 * minutes).natAbs →
      analyze (slowWriting minutes).typed "python" "a = 1\nb = 2" =
        .error (.rating (.overflow .digits)) from hfails _ (htwice 4299)
  intro minutes hminutes
  have hlines : (Size.ofSource (Source.ofText (Language.resolve "python")
      "a = 1\nb = 2")).linesOfCode = 2 := by decide
  have h := (analyze_outcome (slowWriting minutes) "python" "a = 1\nb = 2").2.2 (by decide)
    fun hforeign => absurd hforeign.1 (by decide)
  rw [hlines] at h
  exact (if_pos ((unwritable_le_iff _).mp hminutes)).mp h

end SourceGrade.Proofs
