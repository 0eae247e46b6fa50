import SourceGrade.Display.Piece
import SourceGrade.Json.Writer
import SourceGrade.Report.Json
import SourceGrade.Text.Quoted
/-!
# Formats of reports

A report is written as JSON, as one line with its grades, or as pieces for a terminal.
-/

namespace SourceGrade

inductive ReportFormat where
  | json | quiet | rich
  deriving DecidableEq, Repr

namespace ReportFormat

def name : ReportFormat → Text
  | json => "json"
  | quiet => "quiet"
  | rich => "rich"

/-- All formats in the order of their names. -/
def all : List ReportFormat := [json, quiet, rich]

def find? (t : Text) : Option ReportFormat := all.find? (·.name = t)

/-- The refusal of a name that is no format. -/
def unknownMessage (t : Text) : Text :=
  "Unknown formatter: " ++ Text.quoted t ++ ". Choose from: " ++ Text.join ", " (all.map (·.name))

end ReportFormat

namespace Report

/-- The report on one line: its grades and its debt. -/
def quietLine {α : Type} [Scalar α] (r : Report α) (source : Text) : Text :=
  source ++ ": complexity=" ++ r.complexity.grade.name ++ " maintainability=" ++
    r.maintainability.grade.name ++ " reliability=" ++ r.reliability.grade.name ++ " debt=" ++
    Scalar.fixed 1 r.debt.ratioPercent ++ "%"

/-- The report as a JSON object with its source. Further members replace those of their name or are
added at the end. -/
def document (r : Report Amount) (source : Text) (extra : List (Text × Json)) : Json :=
  .object (extra.foldl (fun members (name, v) => Json.setMember name v members)
    (("source", .text source) :: r.members))

/-- The report as JSON text, one part per line. -/
def jsonText (r : Report Amount) (source : Text) (extra : List (Text × Json)) : Text :=
  Json.indented (r.document source extra)

end Report

end SourceGrade
