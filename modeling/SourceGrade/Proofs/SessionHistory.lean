import SourceGrade.Proofs.ReportKeys
import SourceGrade.Proofs.SharedMemory

/-!
# Histories of sessions

What was analyzed and normalized in a session is told by the steps that it has done. Each step keeps
the memories of the session in accord with that history: a report is found for a request exactly if
one was made for an earlier request that is encoded alike, and it is the report of the first of them;
there is a normal form for each description that was normalized.
-/

namespace SourceGrade

/-- What an analysis in a session is asked to do. -/
structure Request where
  tag : Text
  text : CodePoints
  thresholds : ActiveThresholds

namespace Request

def subject (r : Request) : Subject := .ofRequest r.tag r.text r.thresholds

def isWritable (r : Request) : Bool := r.thresholds.toJson.isWritable

/-- The analysis that a request asks for. -/
def analysis (r : Request) : Except AnalysisError (Report Amount) :=
  SourceGrade.analyze r.thresholds r.tag r.text.legible

/-- The answer without any memory. In a session thresholds have to be written down first. -/
def answer (r : Request) : Except AnalysisError (Report Amount) :=
  if r.isWritable then r.analysis else .error (.rating (.overflow .digits))

end Request

namespace SessionStep

/-- The request of a step, when it is an analysis. -/
def request? : SessionStep → Option Request
  | analyze tag text t => some ⟨tag, text, t⟩
  | analyzeParallel tag text t _ => some ⟨tag, text, t⟩
  | clearReports => none
  | clearNorms => none

end SessionStep

/-- What was done in a session since its memories were cleared. -/
structure History where
  /-- The requests that were answered with a report since the reports were cleared, in order. -/
  analyzed : List Request
  /-- The descriptions that were normalized since the normal forms were cleared. -/
  normalized : List Text

namespace History

/-- The subjects that were analyzed. -/
def subjects (h : History) : Finset Subject := (h.analyzed.map (·.subject)).toFinset

/-- The first request with the key of a request. -/
def first? (h : History) (r : Request) : Option Request :=
  h.analyzed.find? fun q => q.subject.encoded = r.subject.encoded

/-- The request whose stored report answers a request. -/
def served? (enabled : Bool) (h : History) (r : Request) : Option Request :=
  if enabled then h.first? r else none

/-- The answer to a request after a history. -/
def answer (enabled : Bool) (h : History) (r : Request) : Except AnalysisError (Report Amount) :=
  if r.isWritable then ((h.served? enabled r).getD r).analysis
  else .error (.rating (.overflow .digits))

/-- The history after a request. Nothing is normalized for a stored report. -/
def request (enabled : Bool) (h : History) (r : Request) : History where
  analyzed :=
    match h.answer enabled r with
    | .ok _ => h.analyzed ++ [r]
    | .error _ => h.analyzed
  normalized :=
    if !r.isWritable || (h.served? enabled r).isSome then h.normalized
    else normalizedBy r.thresholds r.tag r.text.legible ++ h.normalized

/-- The history after a step, with the memory of reports enabled or disabled. -/
def after (enabled : Bool) (h : History) : SessionStep → History
  | .analyze tag text t => h.request enabled ⟨tag, text, t⟩
  | .analyzeParallel tag text t _ => h.request enabled ⟨tag, text, t⟩
  | .clearReports => { h with analyzed := [] }
  | .clearNorms => { h with normalized := [] }

/-- The history of some steps. -/
def ofSteps (enabled : Bool) (steps : List SessionStep) : History :=
  steps.foldl (after enabled) ⟨[], []⟩

/-- The answers to some steps after a history. -/
def answers (enabled : Bool) : History → List SessionStep →
    List (Option (Except AnalysisError (Report Amount)))
  | _, [] => []
  | h, step :: steps =>
    step.request?.map (h.answer enabled) :: answers enabled (h.after enabled step) steps

variable {h : History} {r q : Request}

lemma mem_subjects {p : Subject} : p ∈ h.subjects ↔ ∃ r ∈ h.analyzed, r.subject = p := by
  rw [subjects, List.mem_toFinset, List.mem_map]

lemma subjects_append : ({ h with analyzed := h.analyzed ++ [r] } : History).subjects =
    insert r.subject h.subjects := by
  rw [subjects, List.map_append, List.toFinset_append, Finset.union_comm]
  rfl

lemma first?_append : ({ h with analyzed := h.analyzed ++ [r] } : History).first? q =
    (h.first? q).or (if r.subject.encoded = q.subject.encoded then some r else none) := by
  rw [first?, List.find?_append, List.find?_singleton]
  simp only [decide_eq_true_eq]
  rfl

lemma first?_congr (heq : q.subject.encoded = r.subject.encoded) : h.first? q = h.first? r := by
  rw [first?, heq]
  rfl

lemma first?_eq_none : h.first? r = none ↔ r.subject.encoded ∉ h.subjects.image Subject.encoded := by
  rw [first?, List.find?_eq_none, Finset.mem_image]
  refine ⟨?_, fun hnone q hq heq => ?_⟩
  · rintro hnone ⟨p, hp, heq⟩
    obtain ⟨q, hq, rfl⟩ := mem_subjects.mp hp
    exact hnone q hq (decide_eq_true heq)
  · exact hnone ⟨q.subject, mem_subjects.mpr ⟨q, hq, rfl⟩, of_decide_eq_true heq⟩

lemma mem_of_served? {enabled : Bool} {first : Request} (hserved : h.served? enabled r = some first) :
    enabled = true ∧ first ∈ h.analyzed ∧ first.subject.encoded = r.subject.encoded := by
  cases enabled with
  | false => cases hserved
  | true =>
    change h.analyzed.find? (fun q => q.subject.encoded = r.subject.encoded) = some first at hserved
    exact ⟨rfl, List.mem_of_find?_eq_some hserved, by simpa using List.find?_some hserved⟩

end History

/-- A session remembers what its history tells, its requests being among some given ones. -/
structure Session.Tracks (s : Session) (requests : List Request) (enabled : Bool) (h : History) :
    Prop where
  enabled_eq : s.reports.enabled = enabled
  lifetime_eq : s.reports.lifetime = .lasting
  found : ∀ r ∈ requests,
    (s.reports.find? r.subject.key.digest).map .ok = (h.served? enabled r).map Request.analysis
  size_eq : s.reports.size? =
    if enabled then some (h.subjects.image Subject.encoded).card else none
  norms_hold : s.norms.Holds h.normalized
  analyzed_subset : ∀ r ∈ h.analyzed, r ∈ requests

namespace Proofs

open Session (Tracks)

lemma start_tracks (enabled : Bool) (requests : List Request) :
    (Session.start enabled).Tracks requests enabled ⟨[], []⟩ where
  enabled_eq := rfl
  lifetime_eq := rfl
  found r _ := by cases enabled <;> rfl
  size_eq := by cases enabled <;> rfl
  norms_hold := holds_empty
  analyzed_subset r hr := absurd hr List.not_mem_nil

section

variable {s : Session} {requests : List Request} {enabled : Bool} {h : History}
  (ht : s.Tracks requests enabled h)
include ht

lemma tracks_clearReports : ({ s with reports := s.reports.clear } : Session).Tracks requests enabled
    { h with analyzed := [] } where
  enabled_eq := by
    unfold ExpiringCache.clear
    split <;> exact ht.enabled_eq
  lifetime_eq := by
    unfold ExpiringCache.clear
    split <;> exact ht.lifetime_eq
  found r _ := by
    rw [ExpiringCache.find?_clear]
    cases enabled <;> rfl
  size_eq := by
    cases enabled with
    | false => rw [ExpiringCache.clear_of_disabled ht.enabled_eq]; exact ht.size_eq
    | true => rw [ExpiringCache.clear_of_enabled ht.enabled_eq]; exact if_pos ht.enabled_eq
  norms_hold := ht.norms_hold
  analyzed_subset r hr := absurd hr List.not_mem_nil

lemma tracks_norms {norms : NormalizationCache} {normalized : List Text}
    (hnorms : norms.Holds normalized) :
    ({ s with norms := norms } : Session).Tracks requests enabled
      { h with normalized := normalized } :=
  { ht with norms_hold := hnorms }

variable {r : Request} (hr : r ∈ requests)
include hr

lemma subset_append : ∀ q ∈ h.analyzed ++ [r], q ∈ requests := by
  rw [List.forall_mem_append]
  exact ⟨ht.analyzed_subset, List.forall_mem_singleton.mpr hr⟩

lemma tracks_served (henabled : enabled = true) (hfirst : (h.first? r).isSome) :
    s.Tracks requests enabled { h with analyzed := h.analyzed ++ [r] } := by
  subst henabled
  exact { ht with
    found := fun q hq => by
      refine (ht.found q hq).trans (congrArg _ ?_)
      change h.first? q = ({ h with analyzed := h.analyzed ++ [r] } : History).first? q
      rw [History.first?_append]
      cases hq : h.first? q with
      | some first => rfl
      | none =>
        rw [if_neg]
        · rfl
        · intro heq
          rw [← History.first?_congr heq] at hq
          rw [hq] at hfirst
          cases hfirst
    size_eq := by
      have hold : r.subject.encoded ∈ h.subjects.image Subject.encoded := by
        by_contra hnew
        rw [History.first?_eq_none.mpr hnew] at hfirst
        cases hfirst
      rw [ht.size_eq, History.subjects_append, Finset.image_insert, Finset.insert_eq_of_mem hold]
    analyzed_subset := subset_append ht hr }

lemma tracks_stored
    (hdigest : ∀ p ∈ requests, ∀ q ∈ requests, p.subject.key.digest = q.subject.key.digest →
      p.subject.encoded = q.subject.encoded)
    (henabled : enabled = true) (hfirst : h.first? r = none) {report : Report Amount}
    (hreport : r.analysis = .ok report) :
    ({ s with reports := s.reports.insert r.subject.key.digest report } : Session).Tracks requests
      enabled { h with analyzed := h.analyzed ++ [r] } := by
  subst henabled
  have hkeeps : s.reports.Keeps := ⟨ht.enabled_eq, ht.lifetime_eq⟩
  have hfind : s.reports.find? r.subject.key.digest = none := by
    have hfound := ht.found r hr
    rw [History.served?, if_pos rfl, hfirst] at hfound
    exact Option.map_eq_none_iff.mp hfound
  exact {
    enabled_eq := (hkeeps.insert _ _).enabled_eq
    lifetime_eq := (hkeeps.insert _ _).lifetime_eq
    found := fun q hq => by
      rw [hkeeps.find?_insert, History.served?, if_pos rfl, History.first?_append]
      by_cases heq : r.subject.encoded = q.subject.encoded
      · rw [if_pos heq, if_pos (beq_iff_eq.mpr (digest_eq_of_encoded_eq heq.symm)),
          History.first?_congr heq.symm, hfirst]
        exact congrArg some hreport.symm
      · have hne : (q.subject.key.digest == r.subject.key.digest) = false :=
          beq_eq_false_iff_ne.mpr fun hkey => heq (hdigest _ hq _ hr hkey).symm
        rw [if_neg heq, hne, Option.or_none]
        exact ht.found q hq
    size_eq := by
      rw [hkeeps.size?_insert hfind, ht.size_eq, History.subjects_append, Finset.image_insert,
        Finset.card_insert_of_notMem (History.first?_eq_none.mp hfirst)]
      rfl
    norms_hold := ht.norms_hold
    analyzed_subset := subset_append ht hr }

lemma tracks_unstored (hdisabled : enabled = false) (report : Report Amount) :
    ({ s with reports := s.reports.insert r.subject.key.digest report } : Session).Tracks requests
      enabled { h with analyzed := h.analyzed ++ [r] } := by
  subst hdisabled
  rw [ExpiringCache.insert_of_disabled ht.enabled_eq]
  exact { ht with analyzed_subset := subset_append ht hr }

end

/-! ### Requests -/

section

variable {enabled : Bool} {h : History} {r : Request}

lemma request_of_unwritable (hwritable : ¬r.isWritable = true) : h.request enabled r = h := by
  simp [History.request, History.answer, hwritable]

lemma request_of_served (hwritable : r.isWritable = true) {first : Request}
    (hserved : h.served? enabled r = some first) {report : Report Amount}
    (hreport : first.analysis = .ok report) :
    h.request enabled r = { h with analyzed := h.analyzed ++ [r] } := by
  simp [History.request, History.answer, hwritable, hserved, hreport]

lemma request_of_computed (hwritable : r.isWritable = true) (hserved : h.served? enabled r = none) :
    h.request enabled r =
      { analyzed :=
          match r.analysis with
          | .ok _ => h.analyzed ++ [r]
          | .error _ => h.analyzed
        normalized := normalizedBy r.thresholds r.tag r.text.legible ++ h.normalized } := by
  simp only [History.request, History.answer, hwritable, hserved, if_true, Option.getD_none,
    Bool.not_true, Option.isSome_none, Bool.or_self, Bool.false_eq_true, if_false]

end

section

variable {s : Session} {requests : List Request} {enabled : Bool} {h : History}
  (hdigest : ∀ p ∈ requests, ∀ q ∈ requests, p.subject.key.digest = q.subject.key.digest →
    p.subject.encoded = q.subject.encoded)
  (ht : s.Tracks requests enabled h)
include hdigest ht

lemma tracks_computed {r : Request} (hr : r ∈ requests)
    (hserved : h.served? enabled r = none) {report : Report Amount} (hreport : r.analysis = .ok report) :
    ({ s with reports := s.reports.insert r.subject.key.digest report } : Session).Tracks requests
      enabled { h with analyzed := h.analyzed ++ [r] } := by
  cases enabled with
  | true => exact tracks_stored ht hr hdigest rfl hserved hreport
  | false => exact tracks_unstored ht hr rfl report

section

variable {r : Request} (hwritable : r.isWritable = true) (hmem : r ∈ requests) (schedule : Schedule)
include hwritable hmem

omit hdigest in
lemma served_tracks {first : Request} (hserved : h.served? enabled r = some first) :
    (s.analyze r.tag r.text r.thresholds schedule).1 = first.analysis ∧
      (s.analyze r.tag r.text r.thresholds schedule).2.Tracks requests enabled
        (h.request enabled r) := by
  have hfound := ht.found r hmem
  rw [hserved] at hfound
  obtain ⟨report, hfind, hreport⟩ := Option.map_eq_some_iff.mp hfound
  have hrun : s.analyze r.tag r.text r.thresholds schedule = (.ok report, s) := by
    rw [Session.analyze, if_pos (show r.thresholds.toJson.isWritable = true from hwritable)]
    dsimp only
    rw [show s.reports.find? (Subject.ofRequest r.tag r.text r.thresholds).key.digest = some report
      from hfind]
  rw [hrun, request_of_served hwritable hserved hreport.symm]
  refine ⟨hreport, ?_⟩
  cases enabled with
  | true => exact tracks_served ht hmem rfl (Option.isSome_of_eq_some hserved)
  | false => cases hserved

lemma computed_tracks (hserved : h.served? enabled r = none) :
    (s.analyze r.tag r.text r.thresholds schedule).1 = r.analysis ∧
      (s.analyze r.tag r.text r.thresholds schedule).2.Tracks requests enabled
        (h.request enabled r) := by
  have hfound := ht.found r hmem
  rw [hserved] at hfound
  have hfresh := analyzeScheduled_answer r.thresholds schedule r.tag r.text.legible ht.norms_hold
  have hholds := holds_after r.thresholds schedule r.tag r.text.legible ht.norms_hold
  rw [Session.analyze, if_pos (show r.thresholds.toJson.isWritable = true from hwritable),
    request_of_computed hwritable hserved]
  dsimp only
  rw [show s.reports.find? (Subject.ofRequest r.tag r.text r.thresholds).key.digest = none
    from Option.map_eq_none_iff.mp hfound]
  dsimp only
  cases hrun : analyzeScheduled r.thresholds schedule s.norms (Language.resolve r.tag)
    r.text.legible with
  | error e =>
    rw [hrun] at hfresh
    have hreport : r.analysis = .error e := hfresh.symm
    rw [hreport]
    exact ⟨rfl, tracks_norms ht hholds⟩
  | ok result =>
    rw [hrun] at hfresh
    have hreport : r.analysis = .ok result.1 := hfresh.symm
    rw [← analyzeScheduled_norms r.thresholds schedule hrun] at hholds
    rw [hreport]
    exact ⟨rfl, tracks_norms (tracks_computed hdigest ht hmem hserved hreport) hholds⟩

end

lemma analyze_tracks {r : Request} (hr : r.isWritable = true → r ∈ requests)
    (schedule : Schedule) :
    (s.analyze r.tag r.text r.thresholds schedule).1 = h.answer enabled r ∧
      (s.analyze r.tag r.text r.thresholds schedule).2.Tracks requests enabled
        (h.request enabled r) := by
  by_cases hwritable : r.isWritable = true
  · rw [History.answer, if_pos hwritable]
    cases hserved : h.served? enabled r with
    | some first => exact served_tracks ht hwritable (hr hwritable) schedule hserved
    | none => exact computed_tracks hdigest ht hwritable (hr hwritable) schedule hserved
  · rw [Session.analyze, if_neg (show ¬r.thresholds.toJson.isWritable = true from hwritable),
      History.answer, if_neg hwritable, request_of_unwritable hwritable]
    exact ⟨rfl, ht⟩

lemma run_tracks {step : SessionStep}
    (hr : ∀ r ∈ step.request?, r.isWritable = true → r ∈ requests) :
    (s.run step).1 = step.request?.map (h.answer enabled) ∧
      (s.run step).2.Tracks requests enabled (h.after enabled step) := by
  cases step with
  | analyze tag text t =>
    obtain ⟨hanswer, htracks⟩ := analyze_tracks hdigest ht (hr _ rfl) .sequential
    exact ⟨congrArg some hanswer, htracks⟩
  | analyzeParallel tag text t schedule =>
    obtain ⟨hanswer, htracks⟩ := analyze_tracks hdigest ht (hr _ rfl) schedule
    exact ⟨congrArg some hanswer, htracks⟩
  | clearReports => exact ⟨rfl, tracks_clearReports ht⟩
  | clearNorms => exact ⟨rfl, tracks_norms ht holds_empty⟩

omit hdigest ht in
lemma forall_requests_cons {P : Request → Prop} {step : SessionStep} {steps : List SessionStep}
    (hr : ∀ r ∈ (step :: steps).filterMap (·.request?), P r) :
    (∀ r ∈ step.request?, P r) ∧ ∀ r ∈ steps.filterMap (·.request?), P r := by
  refine ⟨fun r hmem => hr r (List.mem_filterMap.mpr ⟨step, List.mem_cons_self, hmem⟩), ?_⟩
  intro r hmem
  obtain ⟨step', hstep', hrequest⟩ := List.mem_filterMap.mp hmem
  exact hr r (List.mem_filterMap.mpr ⟨step', List.mem_cons_of_mem _ hstep', hrequest⟩)

lemma runAll_tracks {steps : List SessionStep}
    (hr : ∀ r ∈ steps.filterMap (·.request?), r.isWritable = true → r ∈ requests) :
    (s.runAll steps).1 = h.answers enabled steps ∧
      (s.runAll steps).2.Tracks requests enabled (steps.foldl (History.after enabled) h) := by
  induction steps generalizing s h with
  | nil => exact ⟨rfl, ht⟩
  | cons step steps ih =>
    obtain ⟨hstep, hrest⟩ := forall_requests_cons hr
    obtain ⟨hanswer, htracks⟩ := run_tracks hdigest ht hstep
    obtain ⟨hanswers, htracks⟩ := ih htracks hrest
    exact ⟨congrArg₂ List.cons hanswer hanswers, htracks⟩

end

/-! ### Answers of the requests themselves -/

/-- No two subjects of some requests are encoded alike. -/
def EncodedApart (requests : List Request) : Prop :=
  ∀ p ∈ requests, ∀ q ∈ requests, p.subject.encoded = q.subject.encoded → p.subject = q.subject

theorem encodedApart_of_ofText {requests : List Request}
    (h : ∀ r ∈ requests, ∃ t : Text, r.text = CodePoints.ofText t) : EncodedApart requests := by
  have hencoded : ∀ r ∈ requests, r.subject.encoded = r.subject := by
    intro r hr
    obtain ⟨t, ht⟩ := h r hr
    exact Subject.encoded_of_text (s := r.subject) ht
  intro p hp q hq heq
  rwa [hencoded p hp, hencoded q hq] at heq

section

variable {s : Session} {requests : List Request} {enabled : Bool} {h : History}
  (ht : s.Tracks requests enabled h)
include ht

lemma injOn_encoded (hapart : EncodedApart requests) : Set.InjOn Subject.encoded h.subjects := by
  intro p hp q hq heq
  obtain ⟨r, hr, rfl⟩ := History.mem_subjects.mp hp
  obtain ⟨r', hr', rfl⟩ := History.mem_subjects.mp hq
  exact hapart _ (ht.analyzed_subset r hr) _ (ht.analyzed_subset r' hr') heq

variable (hchecked : ∀ r ∈ requests, r.thresholds.IsChecked)
  (hapart : enabled = true → EncodedApart requests)
include hchecked hapart

lemma answer_eq {r : Request} (hr : r.isWritable = true → r ∈ requests) :
    h.answer enabled r = r.answer := by
  unfold History.answer Request.answer
  split
  · next hwritable =>
    have hmem := hr hwritable
    cases hserved : h.served? enabled r with
    | none => rfl
    | some first =>
      obtain ⟨henabled, hfirst, hencoded⟩ := History.mem_of_served? hserved
      have hfirst := ht.analyzed_subset _ hfirst
      obtain ⟨report, -, hreport⟩ :=
        Option.map_eq_some_iff.mp ((ht.found r hmem).trans (congrArg _ hserved))
      have hsame := analyze_of_subject_eq (hchecked _ hfirst) (hchecked _ hmem)
        (hapart henabled _ hfirst _ hmem hencoded) hreport.symm
      exact hreport.symm.trans hsame.symm
  · rfl

lemma answers_eq {steps : List SessionStep}
    (hdigest : ∀ p ∈ requests, ∀ q ∈ requests, p.subject.key.digest = q.subject.key.digest →
      p.subject.encoded = q.subject.encoded)
    (hr : ∀ r ∈ steps.filterMap (·.request?), r.isWritable = true → r ∈ requests) :
    h.answers enabled steps = steps.map (·.request?.map Request.answer) := by
  induction steps generalizing s h with
  | nil => rfl
  | cons step steps ih =>
    obtain ⟨hstep, hrest⟩ := forall_requests_cons hr
    have htracks := (run_tracks hdigest ht hstep).2
    exact congrArg₂ List.cons
      (Option.map_congr fun r hmem => answer_eq ht hchecked hapart (hstep r hmem)) (ih htracks hrest)

end

end Proofs

end SourceGrade
