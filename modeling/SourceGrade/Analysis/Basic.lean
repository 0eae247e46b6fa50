import SourceGrade.Blocks.OfSource
import SourceGrade.Measure.Size
import SourceGrade.Measure.Complexity
import SourceGrade.Measure.Nesting
import SourceGrade.Hazard.Scan
import SourceGrade.Smell.Detect
import SourceGrade.Issue.Confirmation
import SourceGrade.Report.Basic
import SourceGrade.Language.Lookup
/-!
# Analysis

An analysis reads a text in a language, measures it, looks for issues, and rates what it found. When
the search for hazards or the search for repeats stops, the unit counts as having none. There is no
report when the block map cannot be made, when a limit that is no number is looked at, and when a
score has no number.
-/

namespace SourceGrade

/-- Why there is no report. -/
inductive AnalysisError where
  | blocks (e : BlockError)
  | rating (e : RatingError)
  deriving DecidableEq, Repr

namespace AnalysisError

def message : AnalysisError → Text
  | blocks e => e.message
  | rating e => e.message

end AnalysisError

variable {ι α : Type} [Limit ι] [Scalar α]

/-- Everything that is found out about a unit before it is rated. -/
structure Findings where
  size : Size
  complexity : Complexity
  nesting : Nesting
  duplication : Duplication
  documentation : Documentation
  issues : List Issue

namespace Findings

/-- The limits of deep nesting among the thresholds. -/
def nestingLimits (t : Thresholds ι α) : DeepNesting.Limits ι :=
  ⟨t.nestingWarnDepth, t.nestingMajorDepth⟩

/-- The issues of an inspected unit: its hazards, then its smells. -/
def issuesOf (t : Thresholds ι α) (i : Inspection) (n : Nesting) (m : Measurements) :
    List Issue :=
  (match scanHazards i n (nestingLimits t) with
  | .ok found => found
  | .error _ => []) ++ detectSmells i m t

/-- What is found out about a source with its block map. -/
def ofSource (t : Thresholds ι α) (s : Source) (blocks : BlockMap) : Findings :=
  let size := Size.ofSource s
  let complexity := Complexity.ofSource s size.functions
  let nesting := Nesting.ofBlocks blocks size.functions
  let duplication :=
    match Duplication.ofWindow t.duplicationWindow t.duplicationMinChars s with
    | .ok found => found
    | .error _ => .nothing
  let documentation :=
    Documentation.ofSource s size.functions size.classes t.documentationLookback
  { size := size
    complexity := complexity
    nesting := nesting
    duplication := duplication
    documentation := documentation
    issues :=
      issuesOf t ⟨s, blocks, size.functions⟩ nesting ⟨complexity, duplication, documentation⟩ }

/-- The complexity of the unit, raised for nesting. -/
def adjusted (t : Thresholds ι α) (f : Findings) : Except Incomparable α :=
  adjustedComplexity t f.complexity.total f.nesting.unit.depth

/-- The measurements that a report shows, with the raised complexity. -/
def metrics (t : Thresholds ι α) (f : Findings) (adjusted : α) : Metrics α where
  totalLines := f.size.totalLines
  linesOfCode := f.size.linesOfCode
  commentLines := f.size.commentLines
  commentRatio := f.size.commentRatio
  functionCount := f.size.functionCount
  classCount := f.size.classCount
  averageFunctionLength := f.size.averageFunctionLength
  maxFunctionLength := f.size.maxFunctionLength
  rawComplexity := f.complexity.total
  adjustedComplexity := adjusted
  maxNestingDepth := f.nesting.unit.depth
  duplicatedLines := f.duplication.duplicatedLines
  duplicationPercent := f.duplication.percent
  documentationCoverage := f.documentation.coverage t.documentationNeutral

/-- The functions whose complexity is above the limit, the most complex first. -/
def hotspots (t : Thresholds ι α) (f : Findings) : List Text :=
  let ranked := (f.size.functions.map fun g => (f.complexity.ofFunction g, g)).mergeSort
    fun a b => b.1 ≤ a.1
  (ranked.filter fun (value, _) => Comparable.exceeds value t.functionComplexityMinor).map
    fun (value, g) =>
      "Function '" ++ g.name ++ "' (line " ++ Text.ofNat g.startLine ++ ") has complexity " ++
        Text.ofNat value

/-- Rates what is found out about a unit, and the memory of normalized descriptions after that. -/
def rate [LimitIn ι α] (t : Thresholds ι α) (language : Text) (cache : NormalizationCache)
    (f : Findings) : Except RatingError (Report α × NormalizationCache) := do
  let adjusted ← (f.adjusted t).mapError .incomparable
  let metrics := f.metrics t adjusted
  let (reliability, cache) := aggregate t Category.reliability cache f.issues
  let (maintainability, cache) := aggregate t Category.maintainability cache f.issues
  inRange reliability.deduction
  inRange maintainability.deduction
  let complexity ←
    rateComplexity t f.complexity.total f.nesting.unit.depth adjusted (f.hotspots t)
  let maintainability ← rateMaintainability t metrics maintainability
  let reliability ← rateReliability t reliability (f.issues.countP (·.isConfirmedCritical))
  let debt ← Debt.ofIssues t f.issues (Scalar.whole metrics.linesOfCode)
  let ordered := orderIssues f.issues
  return ({ language := language
            complexity := complexity
            maintainability := maintainability
            reliability := reliability
            metrics := metrics
            violations := .ofIssues ordered
            debt := debt
            issues := ordered
            buckets := categorizeIssues ordered }, cache)

/-- The memory of normalized descriptions after findings are rated. Where there is no rating, it has
the descriptions of the families that were aggregated before. -/
def normsAfter (t : Thresholds ι α) (cache : NormalizationCache) (f : Findings) :
    NormalizationCache :=
  match f.adjusted t with
  | .error _ => cache
  | .ok adjusted =>
    -- a whole number beyond all doubles is refused only when the complexity is rated
    if (Scalar.whole? adjusted).isNone && (Scalar.overflow? adjusted).isSome then cache
    else
      let (reliability, cache) := aggregate t Category.reliability cache f.issues
      if (Scalar.overflow? reliability.deduction).isSome then cache
      else (aggregate t Category.maintainability cache f.issues).2

end Findings

/-- Analyzes a text, and the memory of normalized descriptions after that. -/
def analyzeWith [LimitIn ι α] (t : Thresholds ι α) (cache : NormalizationCache)
    (language : Language) (text : Text) :
    Except AnalysisError (Report α × NormalizationCache) := do
  let source := Source.ofText language text
  let blocks ← (BlockMap.ofSource source).mapError .blocks
  ((Findings.ofSource t source blocks).rate t language.name cache).mapError .rating

/-- Analyzes a text in the language of a tag. -/
def analyze [LimitIn ι α] (t : Thresholds ι α) (tag text : Text) :
    Except AnalysisError (Report α) :=
  (analyzeWith t .empty (Language.resolve tag) text).map (·.1)

end SourceGrade
