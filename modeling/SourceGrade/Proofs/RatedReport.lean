import SourceGrade.Proofs.AnalysisOutcome

/-!
# What a report is made of

A report that an analysis returns has the ratings of the findings of its text, and it shows all the
issues that were found in its own order.
-/

namespace SourceGrade

variable {ι α : Type} [Limit ι] [Scalar α] [LimitIn ι α]

/-- The parts of a report on some findings, made with a memory of normalized descriptions. -/
structure Findings.Rated (t : Thresholds ι α) (cache : NormalizationCache) (f : Findings)
    (report : Report α) : Prop where
  metrics_eq : ∃ adjusted, f.adjusted t = .ok adjusted ∧ report.metrics = f.metrics t adjusted
  reliability_eq : rateReliability t (aggregate t Category.reliability cache f.issues).1
    (f.issues.countP (·.isConfirmedCritical)) = .ok report.reliability
  debt_eq : Debt.ofIssues t f.issues (Scalar.whole f.size.linesOfCode) = .ok report.debt
  issues_eq : report.issues = orderIssues f.issues
  violations_eq : report.violations = .ofIssues report.issues
  buckets_eq : report.buckets = categorizeIssues report.issues

namespace Proofs

/-! ### Computations that may fail -/

lemma bind_eq_ok {ε β γ : Type} {x : Except ε β} {g : β → Except ε γ} {c : γ}
    (h : (x >>= g) = .ok c) : ∃ b, x = .ok b ∧ g b = .ok c := by
  cases x with
  | error e => cases h
  | ok b => exact ⟨b, rfl, h⟩

lemma mapError_eq_ok {ε ε' β : Type} {x : Except ε β} {f : ε → ε'} {b : β}
    (h : x.mapError f = .ok b) : x = .ok b := by
  cases x with
  | error e => cases h
  | ok b' =>
    obtain rfl := Except.ok.inj h
    rfl

lemma bind_of_ok {ε β γ : Type} {x : Except ε β} {g : β → Except ε γ} {b : β} (h : x = .ok b) :
    (x >>= g) = g b := by
  rw [h]
  rfl

lemma mapError_of_ok {ε ε' β : Type} {x : Except ε β} {f : ε → ε'} {b : β} (h : x = .ok b) :
    x.mapError f = .ok b := by
  rw [h]
  rfl

lemma except_map_bind {ε β γ δ : Type} (x : Except ε β) (g : β → Except ε γ) (h : γ → δ) :
    (x >>= g).map h = x >>= fun b => (g b).map h := by
  cases x <;> rfl

lemma except_map_mapError {ε ε' β γ : Type} (x : Except ε β) (f : ε → ε') (g : β → γ) :
    (x.mapError f).map g = (x.map g).mapError f := by
  cases x <;> rfl

/-! ### Reports -/

variable {t : Thresholds ι α}

lemma rate_eq_ok {language : Text} {cache : NormalizationCache} {f : Findings}
    {result : Report α × NormalizationCache} (h : f.rate t language cache = .ok result) :
    f.Rated t cache result.1 := by
  obtain ⟨adjusted, hadjusted, h⟩ := bind_eq_ok h
  obtain ⟨-, -, h⟩ := bind_eq_ok h
  obtain ⟨-, -, h⟩ := bind_eq_ok h
  obtain ⟨complexity, -, h⟩ := bind_eq_ok h
  obtain ⟨maintainability, -, h⟩ := bind_eq_ok h
  obtain ⟨reliability, hreliability, h⟩ := bind_eq_ok h
  obtain ⟨debt, hdebt, h⟩ := bind_eq_ok h
  obtain rfl := Except.ok.inj h
  exact ⟨⟨adjusted, mapError_eq_ok hadjusted, rfl⟩, hreliability, hdebt, rfl, rfl, rfl⟩

lemma analyze_eq_ok {tag text : Text} {report : Report α} (h : analyze t tag text = .ok report) :
    ∃ blocks, BlockMap.ofSource (Source.ofText (Language.resolve tag) text) = .ok blocks ∧
      (Findings.ofSource t (Source.ofText (Language.resolve tag) text) blocks).Rated t .empty
        report := by
  obtain ⟨result, hwith, rfl⟩ := except_map_eq_ok h
  obtain ⟨blocks, hblocks, hrate⟩ := bind_eq_ok hwith
  exact ⟨blocks, mapError_eq_ok hblocks, rate_eq_ok (mapError_eq_ok hrate)⟩

lemma exists_report (t : Thresholds Int Float) {tag text : Text} {blocks : BlockMap}
    (h : BlockMap.ofSource (Source.ofText (Language.resolve tag) text) = .ok blocks)
    (htext : text.length < 2 ^ 63)
    (htime : ((Size.ofSource (Source.ofText (Language.resolve tag) text)).linesOfCode *
      t.developmentMinutesPerLine : Int).natAbs < 2 ^ 200) :
    ∃ report, analyze t.typed tag text = .ok report := by
  obtain ⟨hcomplexity, hremediation⟩ := amounts_lt t (resolve_mem tag) h htext
  have houtcome := analyze_of_ok t h
  have hbound : 2 ^ 200 ≤ Debt.unwritable := two_pow_le_tenTo (by decide)
  have hwritable : ¬Debt.unwritable ≤ ((Findings.ofSource t.typed
      (Source.ofText (Language.resolve tag) text) blocks).size.linesOfCode *
        t.developmentMinutesPerLine : Int).natAbs := by
    change ¬Debt.unwritable ≤ ((Size.ofSource _).linesOfCode * _ : Int).natAbs
    omega
  dsimp only at houtcome
  rw [refusal?_of_lt hcomplexity hremediation, if_neg hwritable] at houtcome
  exact houtcome

/-- The thresholds in use when none are given, as whole numbers and doubles. -/
def usualThresholds : Thresholds Int Float := Thresholds.defaultsOf id Binary.nearest

/-! ### A division -/

/-- A line that divides by a name. -/
def divisionSource : Source := Source.ofText (Language.resolve "python") "x = a / b"

lemma blocks_division : BlockMap.ofSource divisionSource = .ok ⟨[[]]⟩ := by decide +kernel

lemma exists_report_division :
    ∃ report, analyze usualThresholds.typed "python" "x = a / b" = .ok report :=
  exists_report usualThresholds blocks_division (by decide +kernel) (by decide +kernel)

end Proofs

end SourceGrade
