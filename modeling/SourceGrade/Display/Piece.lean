import SourceGrade.Display.Markup
import SourceGrade.Listing
import SourceGrade.Report.Basic
/-!
# Reports for a terminal

A report is shown as a panel with the ratings, a table of measurements, a table of issues and a list
of improvements. All texts carry markup; what comes from the analyzed code is escaped.
-/

namespace SourceGrade

/-- Something shown on a terminal. -/
inductive DisplayPiece where
  | panel (title body : Text)
  | table (title : Text) (caption? : Option Text) (columns : List Text) (rows : List (List Text))
  | text (t : Text)
  deriving DecidableEq, Repr

namespace Display

/-- A text in a style. -/
def styled (style t : Text) : Text := "[" ++ style ++ "]" ++ t ++ "[/" ++ style ++ "]"

def gradeStyle : Grade → Text
  | .a => "green bold"
  | .b => "cyan bold"
  | .c => "yellow bold"
  | .d => "red bold"

def severityStyle : Severity → Text
  | .minor => "dim"
  | .major => "yellow"
  | .critical => "red"
  | .blocker => "red bold"

def gradeLabel (g : Grade) : Text := styled (gradeStyle g) g.name

/-- The width of the labels in the panel. -/
def labelWidth : Nat := 16

def label (t : Text) : Text :=
  styled "bold" (t ++ List.replicate (labelWidth - t.length) ' ')

section

variable {α : Type} [Scalar α]

def ratingLine (name : Text) (r : Rating α) : Text :=
  label name ++ " " ++ gradeLabel r.grade ++
    (if r.warningFlag then (" [red]![/red]" : Text) else []) ++ "  " ++
    Text.padLeft 5 (Scalar.fixed 1 r.score) ++ "  " ++ r.description ++ " " ++
    styled "dim" ("- " ++ Markup.escape r.reason)

/-- The panel with the ratings, the debt and the violations. -/
def summary (r : Report α) (source : Text) : DisplayPiece :=
  .panel
    (styled "bold cyan" (Markup.escape source) ++ " " ++
      styled "dim" ("(" ++ r.language ++ ")"))
    (Text.join "\n" [
      ratingLine "Complexity" r.complexity,
      ratingLine "Maintainability" r.maintainability,
      ratingLine "Reliability" r.reliability,
      label "Technical debt" ++ " " ++ gradeLabel r.debt.grade ++ "  " ++
        Text.ofInt r.debt.totalMinutes ++ " min (" ++ Scalar.fixed 1 r.debt.ratioPercent ++ "%)",
      label "Violations" ++ " " ++
        styled "yellow" (Text.ofNat r.violations.major ++ " major") ++ ", " ++
        styled "dim" (Text.ofNat r.violations.minor ++ " minor")])

/-- The table of measurements. -/
def metricsTable (m : Metrics α) : DisplayPiece :=
  .table "Metrics" none ["Metric", "Value"] [
    ["Lines (code / total)", Text.ofInt m.linesOfCode ++ " / " ++ Text.ofInt m.totalLines],
    ["Comment ratio", Scalar.fixed 0 (m.commentRatio * Scalar.ofInt 100) ++ "%"],
    ["Functions / classes", Text.ofInt m.functionCount ++ " / " ++ Text.ofInt m.classCount],
    ["Longest function", Text.ofInt m.maxFunctionLength ++ " lines"],
    ["Cyclomatic complexity",
      Text.ofInt m.rawComplexity ++ " (adjusted " ++ Scalar.fixed 1 m.adjustedComplexity ++ ")"],
    ["Max nesting depth", Text.ofInt m.maxNestingDepth],
    ["Duplication", Scalar.fixed 1 m.duplicationPercent ++ "%"],
    ["Documentation coverage", Scalar.fixed 0 m.documentationCoverage ++ "%"]]

end

def issueRow (i : Issue) : List Text :=
  [(i.shownLine?.map Text.ofInt).getD "-", styled (severityStyle i.severity) i.severity.name,
    i.category.name, Markup.escape i.description]

/-- The table of issues, of which only some are listed. -/
def issuesTable (maxIssues : Int) (issues : List Issue) : DisplayPiece :=
  .table ("Issues (" ++ Text.ofNat issues.length ++ ")")
    (if maxIssues < issues.length then
      some (Text.ofInt (issues.length - maxIssues) ++ " more not shown")
    else none)
    ["Line", "Severity", "Category", "Description"]
    ((Listing.upTo maxIssues issues).map issueRow)

/-- The improvements that some ratings suggest. -/
def improvements (suggestions : List Text) : List DisplayPiece :=
  match Listing.distinct suggestions with
  | [] => []
  | items =>
    .text (styled "bold" "Suggested improvements:") ::
      items.map fun t => .text ("  - " ++ Markup.escape t)

end Display

/-- The pieces of which a report is shown, listing at most so many issues. -/
def Report.pieces {α : Type} [Scalar α] (r : Report α) (source : Text) (maxIssues : Int) :
    List DisplayPiece :=
  [Display.summary r source, Display.metricsTable r.metrics] ++
    (if r.issues.isEmpty then [] else [Display.issuesTable maxIssues r.issues]) ++
    Display.improvements
      (r.reliability.improvements ++ r.maintainability.improvements ++ r.complexity.improvements)

end SourceGrade
