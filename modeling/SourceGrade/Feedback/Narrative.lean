import SourceGrade.Feedback.Answer
import SourceGrade.Feedback.Client
import SourceGrade.Report.Json
/-!
# Narrative feedback

A language model is asked to review code together with a summary of its report. Whatever is missing
from the answer is replaced by a placeholder.
-/

namespace SourceGrade

/-- A review in words. -/
structure Narrative where
  suggestions : CodePoints
  bestPractices : List CodePoints
  correctedCode? : Option CodePoints
  deriving DecidableEq, Repr

namespace Narrative

def noSuggestions : Text := "No suggestions generated."

/-- The review when there is none. -/
def empty : Narrative := ⟨noSuggestions, [], none⟩

def instructions : Text :=
  ("You are a senior software code reviewer. " : Text) ++
    "Based on the code and the analysis summary, reply with a JSON object: " ++
    "\x7b\"suggestions\": \"<markdown summary of key issues>\", " ++
    "\"best_practices\": [\"...\"], \"corrected_code\": \"<full corrected code or empty>\"\x7d. " ++
    "Only suggest valid improvements."

/-- The issues that a summary lists at most. -/
def maxSummaryIssues : Nat := 20

/-- A rating in a summary. -/
def ratingText {α : Type} (r : Rating α) : Text := r.grade.name ++ " (" ++ r.reason ++ ")"

/-- The summary of a report. -/
def summary {α : Type} [Scalar α] (r : Report α) : Text :=
  Text.join "\n"
    (([("Language: " : Text) ++ r.language,
      "Complexity: " ++ ratingText r.complexity,
      "Maintainability: " ++ ratingText r.maintainability,
      "Reliability: " ++ ratingText r.reliability,
      "Technical debt: " ++ Scalar.fixed 1 r.debt.ratioPercent ++ "%",
      "Issues:"] : List Text) ++
    (r.violations.details.take maxSummaryIssues).map fun d => ("- " : Text) ++ d)

/-- The strings among some values. -/
def stringsOf : Json → List CodePoints
  | .list items => items.filterMap Json.string?
  | _ => []

/-- The review in the members of an answer. -/
def ofMembers (members : List (Text × Json)) : Narrative where
  suggestions := ((Json.member? "suggestions" members).bind Json.writtenString?).getD noSuggestions
  bestPractices := ((Json.member? "best_practices" members).map stringsOf).getD []
  correctedCode? := (Json.member? "corrected_code" members).bind Json.writtenString?

def ofAnswer (t : Text) : Except AnswerError Narrative := do
  return ((← answeredObject? t).map ofMembers).getD empty

/-- Asks for a review of some code. -/
def request {α : Type} [Scalar α] (c : ChatClient) (code : Text) (r : Report α) :
    Except AnswerError Narrative × ChatClient :=
  let (answer, c) := c.chat ChatClient.writingTemperature
    (ChatClient.task instructions (summary r ++ "\n\nCode:\n" ++ code))
  match answer with
  | .ok t => (ofAnswer t, c)
  | .error _ => (.ok empty, c)

def toJson (n : Narrative) : Json :=
  .object [("suggestions", .ofCodePoints n.suggestions),
    ("best_practices", .list (n.bestPractices.map .ofCodePoints)),
    ("corrected_code", .optional .ofCodePoints n.correctedCode?)]

end Narrative

end SourceGrade
