import SourceGrade.Analysis.Basic
/-!
# Independent detectors

The complexity, the nesting, the duplication and the documentation of a unit are found independently
of each other, one after another or side by side. In whatever order the detectors finish, each result
is kept by its detector, and the analysis goes on when all of them are done.
-/

namespace SourceGrade

variable {ι α : Type} [Limit ι] [Scalar α]

/-- The detectors that need nothing from each other. -/
inductive Detector where
  | complexity | nesting | duplication | documentation
  deriving DecidableEq, Repr

namespace Detector

/-- What a detector finds. -/
abbrev Result : Detector → Type
  | complexity => Complexity
  | nesting => Nesting
  | duplication => Duplication
  | documentation => Documentation

/-- Runs a detector on a source with its block map and its size; one that stops finds nothing. -/
def run (t : Thresholds ι α) (s : Source) (blocks : BlockMap) (size : Size) :
    (d : Detector) → d.Result
  | complexity => Complexity.ofSource s size.functions
  | nesting => Nesting.ofBlocks blocks size.functions
  | duplication =>
    match Duplication.ofWindow t.duplicationWindow t.duplicationMinChars s with
    | .ok found => found
    | .error _ => .nothing
  | documentation =>
    Documentation.ofSource s size.functions size.classes t.documentationLookback

end Detector

/-- The results of the detectors that are done. -/
def Detected : Type := (d : Detector) → Option d.Result

namespace Detected

def nothing : Detected := fun _ => none

/-- The results after one more detector is done. -/
def add (found : Detected) (d : Detector) (result : d.Result) : Detected :=
  fun e => if h : d = e then some (h ▸ result) else found e

/-- The results after some detectors finish one after another. -/
def finish (results : (d : Detector) → d.Result) : Detected → List Detector → Detected
  | found, [] => found
  | found, d :: ds => finish results (found.add d (results d)) ds

theorem finish_of_mem (results : (d : Detector) → d.Result) {order : List Detector}
    {found : Detected} {d : Detector} (h : d ∈ order ∨ found d = some (results d)) :
    finish results found order d = some (results d) := by
  induction order generalizing found with
  | nil => exact h.resolve_left List.not_mem_nil
  | cons e order ih =>
    refine ih ?_
    by_cases he : e = d
    · subst he
      exact .inr (dif_pos rfl)
    · refine h.imp (fun hd => (List.mem_cons.mp hd).resolve_left fun heq => he heq.symm) ?_
      intro hfound
      exact (dif_neg he).trans hfound

end Detected

/-- An order in which all detectors finish; one may be listed again. -/
structure Schedule where
  order : List Detector
  complete : ∀ d, d ∈ order

namespace Schedule

/-- One after another. -/
def sequential : Schedule where
  order := [.complexity, .nesting, .duplication, .documentation]
  complete d := by cases d <;> decide

/-- What a detector has found when all of them are done. -/
def result (schedule : Schedule) (results : (d : Detector) → d.Result) (d : Detector) : d.Result :=
  (Detected.finish results .nothing schedule.order d).get <| by
    rw [Detected.finish_of_mem results (.inl (schedule.complete d))]
    rfl

theorem result_eq (schedule : Schedule) (results : (d : Detector) → d.Result) (d : Detector) :
    schedule.result results d = results d :=
  Option.get_of_eq_some _ (Detected.finish_of_mem results (.inl (schedule.complete d)))

end Schedule

/-- What is found out about a source with its block map, by detectors that finish in some order. -/
def Findings.ofSchedule (t : Thresholds ι α) (schedule : Schedule) (s : Source)
    (blocks : BlockMap) : Findings :=
  let size := Size.ofSource s
  let found := schedule.result (Detector.run t s blocks size)
  { size := size
    complexity := found .complexity
    nesting := found .nesting
    duplication := found .duplication
    documentation := found .documentation
    issues :=
      issuesOf t ⟨s, blocks, size.functions⟩ (found .nesting)
        ⟨found .complexity, found .duplication, found .documentation⟩ }

/-- Analyzes a text with detectors that finish in some order, and the memory of normalized
descriptions after that. -/
def analyzeScheduled [LimitIn ι α] (t : Thresholds ι α) (schedule : Schedule)
    (cache : NormalizationCache) (language : Language) (text : Text) :
    Except AnalysisError (Report α × NormalizationCache) := do
  let source := Source.ofText language text
  let blocks ← (BlockMap.ofSource source).mapError .blocks
  ((Findings.ofSchedule t schedule source blocks).rate t language.name cache).mapError .rating

/-- The memory of normalized descriptions after an analysis, also after one without a report. -/
def normsAfter (t : Thresholds ι α) (schedule : Schedule) (cache : NormalizationCache)
    (language : Language) (text : Text) : NormalizationCache :=
  let source := Source.ofText language text
  match BlockMap.ofSource source with
  | .error _ => cache
  | .ok blocks => (Findings.ofSchedule t schedule source blocks).normsAfter t cache

end SourceGrade
