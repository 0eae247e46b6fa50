import SourceGrade.Scoring.Complexity
import SourceGrade.Scoring.Reliability
import SourceGrade.Scoring.Maintainability
import SourceGrade.Scoring.Debt
/-!
# Reports

A report puts the ratings, the measurements and the issues of a unit together. Its issues are
ordered by line, and it counts and names them once more as violations and by bucket.
-/

namespace SourceGrade

/-- A line with an issue on it. -/
structure LineReference where
  line : Int
  issue : Text
  severity : Severity
  deriving DecidableEq, Repr

/-- The counts of major and minor issues, with a text for each. -/
structure Violations where
  major : Nat
  minor : Nat
  details : List Text
  lineReferences : List LineReference
  deriving DecidableEq, Repr

/-- The outcome of an analysis. -/
structure Report (α : Type) where
  language : Text
  complexity : Rating α
  maintainability : Rating α
  reliability : Rating α
  metrics : Metrics α
  violations : Violations
  debt : Debt α
  issues : List Issue
  /-- The buckets that are not empty, with the texts of their issues. -/
  buckets : List (Text × List Text)
  deriving DecidableEq, Repr

namespace Issue

/-- The order of issues in a report: by line, those without a line last, then by rule. -/
def comesBefore (i j : Issue) : Bool :=
  match i.line?, j.line? with
  | some m, some n => m < n || (m == n && Text.le i.rule j.rule)
  | some _, none => true
  | none, some _ => false
  | none, none => Text.le i.rule j.rule

/-- The bucket of an issue. -/
def bucket (i : Issue) : Text :=
  match i.category with
  | .runtime => if i.severity.isCritical then "Bugs - Critical" else "Bugs - Runtime"
  | .exception => "Bugs - Exception Handling"
  | .structural => "Code Smells - Structure"
  | .readability => "Code Smells - Maintainability"
  | .naming => "Code Smells - Naming"

/-- All buckets in their order. -/
def allBuckets : List Text :=
  ["Bugs - Critical", "Bugs - Runtime", "Bugs - Exception Handling", "Code Smells - Structure",
    "Code Smells - Maintainability", "Code Smells - Naming"]

end Issue

/-- Issues in the order of a report; issues of one line and rule keep their order. -/
def orderIssues (issues : List Issue) : List Issue := issues.mergeSort Issue.comesBefore

def Violations.ofIssues (issues : List Issue) : Violations :=
  let major := issues.countP (·.severity.isMajor)
  { major := major
    minor := issues.length - major
    details := issues.map fun i => i.located ("[" ++ i.severity.name ++ "] " ++ i.description)
    lineReferences := issues.filterMap fun i =>
      i.shownLine?.map fun line => ⟨line, i.description, i.severity⟩ }

/-- The texts of issues by bucket, empty buckets left out. -/
def categorizeIssues (issues : List Issue) : List (Text × List Text) :=
  (Issue.allBuckets.map fun name =>
    (name, (issues.filter (·.bucket = name)).map fun i => i.located i.description)).filter
    fun (_, entries) => !entries.isEmpty

end SourceGrade
