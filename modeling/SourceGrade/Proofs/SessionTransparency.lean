import SourceGrade.Proofs.SessionHistory

/-!
# Sessions answer like fresh analyses

Neither memory of a session shows in its answers as long as no two of its texts are encoded alike, and
how much is remembered follows from what was analyzed since the memories were cleared. Texts that
differ only in a surrogate and a question mark are encoded alike: the report of the first of them is
stored for both.
-/

namespace SourceGrade.Proofs

/-- The requests whose keys are computed in some steps. -/
def requestsOf (steps : List SessionStep) : List Request :=
  (steps.filterMap (·.request?)).filter (·.isWritable)

/-- The subjects whose keys are computed in some steps. -/
def subjectsOf (steps : List SessionStep) : List Subject := (requestsOf steps).map (·.subject)

lemma encoded_eq_of_requests {steps : List SessionStep} (hfree : CollisionFree (subjectsOf steps)) :
    ∀ p ∈ requestsOf steps, ∀ q ∈ requestsOf steps, p.subject.key.digest = q.subject.key.digest →
      p.subject.encoded = q.subject.encoded := by
  have hlanguage : ∀ q ∈ subjectsOf steps, '\x00' ∉ q.language := by
    intro q hq
    obtain ⟨r, -, rfl⟩ := List.mem_map.mp hq
    exact null_not_mem_language r.tag _ r.thresholds
  exact fun p hp q hq =>
    encoded_eq_of_digest_eq hfree hlanguage (List.mem_map_of_mem hp) (List.mem_map_of_mem hq)

lemma mem_requestsOf {steps : List SessionStep} :
    ∀ r ∈ steps.filterMap (·.request?), r.isWritable = true → r ∈ requestsOf steps :=
  fun _ hr hwritable => List.mem_filter.mpr ⟨hr, hwritable⟩

lemma runAll_start (enabled : Bool) {steps : List SessionStep}
    (hfree : CollisionFree (subjectsOf steps)) :
    let run := (Session.start enabled).runAll steps
    run.1 = History.answers enabled ⟨[], []⟩ steps ∧
      run.2.Tracks (requestsOf steps) enabled (History.ofSteps enabled steps) :=
  runAll_tracks (encoded_eq_of_requests hfree) (start_tracks enabled _) mem_requestsOf

/-! ### A session of three steps -/

lemma collisionFree_of_encoded_eq {steps : List SessionStep} (subject : Subject)
    (h : ∀ r ∈ requestsOf steps, r.subject.encoded = subject.encoded) :
    CollisionFree (subjectsOf steps) := by
  have hsubject : ∀ q ∈ subjectsOf steps, q.encoded = subject.encoded := List.forall_mem_map.mpr h
  have heq : ∀ p ∈ subjectsOf steps, ∀ q ∈ subjectsOf steps, p.encoded = q.encoded :=
    fun p hp q hq => (hsubject p hp).trans (hsubject q hq).symm
  exact ⟨fun p hp q hq _ => (Subject.ext_iff.mp (heq p hp q hq)).2.2,
    fun p hp q hq _ => joined_eq_of_encoded_eq (heq p hp q hq)⟩

lemma validate_of_isOk {s : Thresholds Setting Setting} (h : s.validate.isOk = true) :
    s.validate = .ok () := by
  cases hvalidate : s.validate with
  | ok u => rfl
  | error e =>
    rw [hvalidate] at h
    cases h

lemma usualThresholds_checked : usualThresholds.typed.IsChecked :=
  ⟨.defaultSettings, validate_of_isOk (by decide +kernel), rfl⟩

lemma isWritable_of_usual {r : Request} (h : r.thresholds = usualThresholds.typed) :
    r.isWritable = true := by
  have hwritable : usualThresholds.typed.toJson.isWritable = true := by decide +kernel
  rwa [Request.isWritable, h]

lemma requestsOf_eq {steps : List SessionStep} {requests : List Request}
    (h : steps.filterMap (·.request?) = requests)
    (husual : ∀ r ∈ requests, r.thresholds = usualThresholds.typed) :
    requestsOf steps = requests := by
  rw [requestsOf, h]
  exact List.filter_eq_self.mpr fun r hr => isWritable_of_usual (husual r hr)

lemma forall_mem_pair {P : Request → Prop} {p q : Request} (hp : P p) (hq : P q) :
    ∀ r ∈ [p, q], P r :=
  List.forall_mem_cons.mpr ⟨hp, List.forall_mem_singleton.mpr hq⟩

/-- The step that carries out a request. -/
def stepOf (r : Request) : SessionStep := .analyze r.tag r.text r.thresholds

lemma request?_stepOf (r : Request) : (stepOf r).request? = some r := rfl

lemma after_stepOf (enabled : Bool) (h : History) (r : Request) :
    h.after enabled (stepOf r) = h.request enabled r := rfl

/-- A division, in a language named by a tag. -/
def divisionRequest (tag : Text) : Request := ⟨tag, "x = a / b", usualThresholds.typed⟩

/-- A session that analyzes a division under two names of a language, with the normal forms cleared
in between. -/
def divisionSteps : List SessionStep := [
  stepOf (divisionRequest "python"),
  .clearNorms,
  .analyzeParallel "py" "x = a / b" usualThresholds.typed .sequential]

lemma resolve_py : Language.resolve "py" = Language.resolve "python" :=
  resolve_eq_of_name_eq (by decide)

lemma subject_py : (divisionRequest "py").subject = (divisionRequest "python").subject :=
  Subject.ext rfl (congrArg Language.name resolve_py) rfl

lemma divisionSteps_requests :
    requestsOf divisionSteps = [divisionRequest "python", divisionRequest "py"] :=
  requestsOf_eq rfl (forall_mem_pair rfl rfl)

lemma divisionSteps_checked : ∀ r ∈ requestsOf divisionSteps, r.thresholds.IsChecked := by
  rw [divisionSteps_requests]
  exact forall_mem_pair usualThresholds_checked usualThresholds_checked

lemma divisionSteps_apart : EncodedApart (requestsOf divisionSteps) := by
  rw [divisionSteps_requests]
  exact encodedApart_of_ofText (forall_mem_pair ⟨_, rfl⟩ ⟨_, rfl⟩)

lemma divisionSteps_collisionFree : CollisionFree (subjectsOf divisionSteps) := by
  refine collisionFree_of_encoded_eq (divisionRequest "python").subject ?_
  rw [divisionSteps_requests]
  exact forall_mem_pair rfl (congrArg Subject.encoded subject_py)

lemma answer_of_usual {r : Request} (h : r.thresholds = usualThresholds.typed) :
    r.answer = r.analysis :=
  if_pos (isWritable_of_usual h)

lemma exists_answer_division : ∃ report,
    (divisionRequest "python").answer = .ok report ∧ (divisionRequest "py").answer = .ok report := by
  obtain ⟨report, hreport⟩ := exists_report_division
  have hanswer : ∀ tag, (divisionRequest tag).answer =
      SourceGrade.analyze usualThresholds.typed tag "x = a / b" := fun tag => by
    rw [answer_of_usual rfl, Request.analysis]
    exact congrArg _ (CodePoints.legible_ofText _)
  have hsame : SourceGrade.analyze usualThresholds.typed "py" "x = a / b" =
      SourceGrade.analyze usualThresholds.typed "python" "x = a / b" := by
    unfold SourceGrade.analyze
    rw [resolve_py]
  exact ⟨report, (hanswer "python").trans hreport, (hanswer "py").trans (hsame.trans hreport)⟩

lemma served?_of_nil (enabled : Bool) (normalized : List Text) (r : Request) :
    (⟨[], normalized⟩ : History).served? enabled r = none := by
  cases enabled <;> rfl

lemma answer_of_nil (enabled : Bool) (normalized : List Text) (r : Request) :
    (⟨[], normalized⟩ : History).answer enabled r = r.answer := by
  rw [History.answer, served?_of_nil]
  rfl

section

variable {p q : Request} (hencoded : p.subject.encoded = q.subject.encoded)
  (hwritable : q.isWritable = true) (normalized : List Text)
include hencoded

lemma served?_of_encoded_eq : (⟨[p], normalized⟩ : History).served? true q = some p := by
  rw [History.served?, if_pos rfl, History.first?, List.find?_singleton]
  exact if_pos (decide_eq_true hencoded)

include hwritable

lemma answer_of_encoded_eq : (⟨[p], normalized⟩ : History).answer true q = p.analysis := by
  rw [History.answer, if_pos hwritable, served?_of_encoded_eq hencoded]
  rfl

lemma request_of_encoded_eq {report : Report Amount} (hreport : p.analysis = .ok report) :
    (⟨[p], normalized⟩ : History).request true q = ⟨[p, q], normalized⟩ :=
  request_of_served hwritable (served?_of_encoded_eq hencoded normalized) hreport

end

lemma request_of_nil {r : Request} (hwritable : r.isWritable = true) (enabled : Bool)
    {report : Report Amount} (hreport : r.analysis = .ok report) :
    (⟨[], []⟩ : History).request enabled r =
      ⟨[r], normalizedBy r.thresholds r.tag r.text.legible⟩ := by
  rw [request_of_computed hwritable (served?_of_nil enabled [] r), hreport, List.append_nil]
  rfl

lemma divisionSteps_history : History.ofSteps true divisionSteps =
    ⟨[divisionRequest "python", divisionRequest "py"], []⟩ := by
  obtain ⟨report, hreport, -⟩ := exists_answer_division
  rw [answer_of_usual rfl] at hreport
  have hfirst := request_of_nil (r := divisionRequest "python") (isWritable_of_usual rfl) true hreport
  have hsecond := request_of_encoded_eq (q := divisionRequest "py")
    (congrArg Subject.encoded subject_py.symm) (isWritable_of_usual rfl) [] hreport
  rw [History.ofSteps, divisionSteps, List.foldl_cons, List.foldl_cons, List.foldl_cons,
    List.foldl_nil, after_stepOf, hfirst]
  exact hsecond

/-! ### An analysis that fails -/

/-- A division and one more line. -/
def twoLines : Text := "x = a / b\ny = 1"

lemma twoLines_blocks :
    BlockMap.ofSource (Source.ofText (Language.resolve "python") twoLines) = .ok ⟨[[], []]⟩ := by
  decide +kernel

/-- Thresholds by which the time for two lines has too many digits. -/
def slowThresholds : Thresholds Int Float := slowWriting (5 * tenTo 4299)

lemma slowThresholds_checked : slowThresholds.typed.IsChecked :=
  ⟨{ Thresholds.defaultSettings with developmentMinutesPerLine := .whole (5 * tenTo 4299) },
    validate_of_isOk (by decide +kernel), rfl⟩

lemma analyze_slow (t : Thresholds Int Float)
    (hminutes : Debt.unwritable ≤ (2 * t.developmentMinutesPerLine).natAbs) :
    analyze t.typed "python" twoLines = .error (.rating (.overflow .digits)) := by
  obtain ⟨hcomplexity, hremediation⟩ :=
    amounts_lt t (resolve_mem "python") twoLines_blocks (by decide)
  have hlines : (Size.ofSource (Source.ofText (Language.resolve "python") twoLines)).linesOfCode =
      2 := by decide +kernel
  have hdigits : Debt.unwritable ≤ ((Findings.ofSource t.typed
      (Source.ofText (Language.resolve "python") twoLines) ⟨[[], []]⟩).size.linesOfCode *
        t.developmentMinutesPerLine : Int).natAbs := by
    change _ ≤ ((Size.ofSource _).linesOfCode * _ : Int).natAbs
    rw [hlines]
    exact hminutes
  have houtcome := analyze_of_ok t twoLines_blocks
  dsimp only at houtcome
  rw [refusal?_of_lt hcomplexity hremediation, if_pos hdigits] at houtcome
  exact houtcome

lemma normalizedBy_ne_nil (t : Thresholds Int Float) (hissues : (Findings.ofSource t.typed
    (Source.ofText (Language.resolve "python") twoLines) ⟨[[], []]⟩).issues ≠ []) :
    normalizedBy t.typed "python" twoLines ≠ [] := by
  obtain ⟨hcomplexity, -⟩ := amounts_lt t (resolve_mem "python") twoLines_blocks (by decide)
  obtain ⟨issue, hissue⟩ := List.exists_mem_of_ne_nil _ hissues
  have hmem : issue.description ∈ normalizedBy t.typed "python" twoLines := by
    rw [mem_normalizedBy t.typed twoLines_blocks, described_typed t hcomplexity]
    exact List.mem_map_of_mem hissue
  exact List.ne_nil_of_mem hmem

lemma norms_of_one_analysis {r : Request} (hwritable : r.isWritable = true) :
    ((Session.start true).runAll [stepOf r]).2.norms.size =
      (normalizedBy r.thresholds r.tag r.text.legible).toFinset.card := by
  have hfree : CollisionFree (subjectsOf [stepOf r]) := by
    refine collisionFree_of_encoded_eq r.subject fun q hq => ?_
    obtain rfl := List.mem_singleton.mp (List.mem_filter.mp hq).1
    rfl
  have hhistory : (History.ofSteps true [stepOf r]).normalized =
      normalizedBy r.thresholds r.tag r.text.legible ++ [] :=
    congrArg History.normalized (request_of_computed hwritable (served?_of_nil true [] r))
  rw [size_of_holds (runAll_start true hfree).2.norms_hold, hhistory, List.append_nil]

/-! ### Texts that are encoded alike -/

/-- A choice between two values, with a mark between the condition and them. -/
def choice (mark : CodePoint) : CodePoints :=
  CodePoints.ofText "x = a " ++ mark :: CodePoints.ofText " b : c"

def choiceRequest (mark : CodePoint) : Request := ⟨"javascript", choice mark, usualThresholds.typed⟩

/-- A session that analyzes a choice after a line that has a surrogate instead of its question
mark. -/
def choiceSteps : List SessionStep :=
  [stepOf (choiceRequest (.surrogate 0xD800)), stepOf (choiceRequest (.char '?'))]

lemma choice_encoded : (choiceRequest (.surrogate 0xD800)).subject.encoded =
    (choiceRequest (.char '?')).subject.encoded := rfl

lemma choice_apart :
    (choiceRequest (.surrogate 0xD800)).subject ≠ (choiceRequest (.char '?')).subject := by
  have htext : choice (.surrogate 0xD800) ≠ choice (.char '?') := by decide
  exact fun h => htext (congrArg Subject.text h)

lemma choiceSteps_requests : requestsOf choiceSteps =
    [choiceRequest (.surrogate 0xD800), choiceRequest (.char '?')] :=
  requestsOf_eq rfl (forall_mem_pair rfl rfl)

lemma choiceSteps_collisionFree : CollisionFree (subjectsOf choiceSteps) := by
  refine collisionFree_of_encoded_eq (choiceRequest (.char '?')).subject ?_
  rw [choiceSteps_requests]
  exact forall_mem_pair choice_encoded rfl

lemma rawComplexity_eq {tag text : Text} {t : ActiveThresholds} {report : Report Amount}
    (h : analyze t tag text = .ok report) : report.metrics.rawComplexity =
      ((1 + Complexity.decisionPoints (Language.resolve tag).decisions
        (Source.ofText (Language.resolve tag) text).lines : Nat) : Int) := by
  obtain ⟨blocks, -, hrated⟩ := analyze_eq_ok h
  obtain ⟨adjusted, -, hmetrics⟩ := hrated.metrics_eq
  rw [hmetrics]
  change ((1 + Complexity.decisionPoints (Source.ofText _ text).language.decisions _ : Nat) : Int) = _
  rw [ofText_language]

lemma exists_report_choice (mark : CodePoint) (n : Nat)
    (hblocks : BlockMap.ofSource (Source.ofText (Language.resolve "javascript") (choice mark).legible) =
      .ok ⟨[[]]⟩)
    (hlines : (Size.ofSource
      (Source.ofText (Language.resolve "javascript") (choice mark).legible)).linesOfCode = 1)
    (hpoints : Complexity.decisionPoints (Language.resolve "javascript").decisions
      (Source.ofText (Language.resolve "javascript") (choice mark).legible).lines = n) :
    ∃ report, (choiceRequest mark).analysis = .ok report ∧
      report.metrics.rawComplexity = ((1 + n : Nat) : Int) := by
  have hlength : (choice mark).legible.length < 2 ^ 63 := by
    have hlength : (choice mark).length = 13 := rfl
    rw [CodePoints.legible, List.length_map, hlength]
    decide
  obtain ⟨report, hreport⟩ := exists_report usualThresholds hblocks hlength (by
    rw [hlines]
    decide +kernel)
  exact ⟨report, hreport, hpoints ▸ rawComplexity_eq hreport⟩

section

variable {report : Report Amount}
  (hreport : (choiceRequest (.surrogate 0xD800)).analysis = .ok report)
include hreport

lemma choiceSteps_answers : History.answers true ⟨[], []⟩ choiceSteps =
    [some (.ok report), some (.ok report)] := by
  rw [choiceSteps, History.answers, History.answers, History.answers, request?_stepOf,
    request?_stepOf, after_stepOf, request_of_nil (isWritable_of_usual rfl) true hreport,
    Option.map_some, Option.map_some, answer_of_nil, answer_of_usual rfl,
    answer_of_encoded_eq choice_encoded (isWritable_of_usual rfl), hreport]

lemma choiceSteps_analyzed : (History.ofSteps true choiceSteps).analyzed =
    [choiceRequest (.surrogate 0xD800), choiceRequest (.char '?')] := by
  rw [History.ofSteps, choiceSteps, List.foldl_cons, List.foldl_cons, List.foldl_nil, after_stepOf,
    after_stepOf, request_of_nil (isWritable_of_usual rfl) true hreport,
    request_of_encoded_eq choice_encoded (isWritable_of_usual rfl) _ hreport]

end

/-! ### Whole sessions -/

end SourceGrade.Proofs
