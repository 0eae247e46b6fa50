import SourceGrade.Report.Basic
import SourceGrade.Setting.Json
/-!
# Reports as JSON

The members of a report and of its parts, in the order in which they are shown.
-/

namespace SourceGrade

namespace Json

def texts (ts : List Text) : Json := list (ts.map text)

def optional {β : Type} (f : β → Json) : Option β → Json
  | some x => f x
  | none => null

end Json

def Rating.toJson (r : Rating Amount) : Json :=
  .object [("grade", .text r.grade.name), ("score", r.score.toJson),
    ("description", .text r.description), ("reason", .text r.reason), ("issues", .texts r.issues),
    ("improvements", .texts r.improvements), ("warning_flag", .bool r.warningFlag)]

def Metrics.toJson (m : Metrics Amount) : Json :=
  .object [("total_lines", .int m.totalLines), ("lines_of_code", .int m.linesOfCode),
    ("comment_lines", .int m.commentLines), ("comment_ratio", m.commentRatio.toJson),
    ("function_count", .int m.functionCount), ("class_count", .int m.classCount),
    ("average_function_length", m.averageFunctionLength.toJson),
    ("max_function_length", .int m.maxFunctionLength),
    ("cyclomatic_complexity_raw", .int m.rawComplexity),
    ("adjusted_complexity", m.adjustedComplexity.toJson),
    ("max_nesting_depth", .int m.maxNestingDepth), ("duplicated_lines", .int m.duplicatedLines),
    ("duplication_percent", m.duplicationPercent.toJson),
    ("documentation_coverage_percent", m.documentationCoverage.toJson)]

def LineReference.toJson (r : LineReference) : Json :=
  .object [("line", .int r.line), ("issue", .text r.issue), ("severity", .text r.severity.name)]

def Violations.toJson (v : Violations) : Json :=
  .object [("major", .int v.major), ("minor", .int v.minor), ("details", .texts v.details),
    ("line_references", .list (v.lineReferences.map (·.toJson)))]

def Debt.toJson (d : Debt Amount) : Json :=
  .object [("total_minutes", .int d.totalMinutes), ("debt_ratio_percent", d.ratioPercent.toJson),
    ("grade", .text d.grade.name), ("estimated_development_minutes", d.developmentMinutes.toJson)]

def Issue.toJson (i : Issue) : Json :=
  .object [("category", .text i.category.name), ("severity", .text i.severity.name),
    ("description", .text i.description), ("line", .optional .int i.line?),
    ("remediation_minutes", .int i.remediationMinutes), ("rule", .text i.rule),
    ("context", .texts i.context), ("snippet", .text i.snippet)]

/-- The members of a report. -/
def Report.members (r : Report Amount) : List (Text × Json) :=
  [("language", .text r.language), ("complexity", r.complexity.toJson),
    ("maintainability", r.maintainability.toJson), ("reliability", r.reliability.toJson),
    ("metrics", r.metrics.toJson), ("violations", r.violations.toJson),
    ("technical_debt", r.debt.toJson), ("issues", .list (r.issues.map (·.toJson))),
    ("issue_categories", .object (r.buckets.map fun (name, entries) => (name, .texts entries)))]

def Report.toJson (r : Report Amount) : Json := .object r.members

end SourceGrade
