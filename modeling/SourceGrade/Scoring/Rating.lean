import SourceGrade.Issue.Basic
import SourceGrade.Scoring.Aggregation
/-!
# Ratings

A rating is a grade with its score and its explanation. Each quality has a description and canned
advice for each grade; the categories of issues have advice of their own.
-/

namespace SourceGrade

/-- A grade with its explanation. -/
structure Rating (α : Type) where
  grade : Grade
  score : α
  description : Text
  reason : Text
  issues : List Text := []
  improvements : List Text := []
  warningFlag : Bool := false
  deriving DecidableEq, Repr

/-- Why there is no rating. -/
inductive RatingError where
  | incomparable (e : Incomparable)
  | overflow (e : Overflow)
  deriving DecidableEq, Repr

namespace RatingError

def message : RatingError → Text
  | incomparable e => e.message
  | overflow e => e.message

end RatingError

/-- The rated qualities. -/
inductive Quality where
  | complexity | maintainability | reliability
  deriving DecidableEq, Repr

namespace Quality

def name : Quality → Text
  | complexity => "complexity"
  | maintainability => "maintainability"
  | reliability => "reliability"

/-- What a grade of a quality means. -/
def description : Quality → Grade → Text
  | complexity, .a => "Low complexity"
  | complexity, .b => "Moderate complexity"
  | complexity, .c => "High complexity"
  | complexity, .d => "Very high complexity"
  | maintainability, .a => "Highly maintainable"
  | maintainability, .b => "Maintainable"
  | maintainability, .c => "Needs attention"
  | maintainability, .d => "Hard to maintain"
  | reliability, .a => "Reliable"
  | reliability, .b => "Mostly reliable"
  | reliability, .c => "Unreliable"
  | reliability, .d => "Highly unreliable"

/-- What to do about a grade of a quality. -/
def advice : Quality → Grade → List Text
  | complexity, .b => ["Extract complex conditions into well-named helper functions"]
  | complexity, .c =>
    ["Break large functions into smaller ones", "Replace nested conditionals with early returns"]
  | complexity, .d =>
    ["Refactor into smaller functions with a single responsibility",
      "Replace branching chains with lookup tables or polymorphism",
      "Reduce nesting with guard clauses"]
  | maintainability, .b => ["Add comments where intent is not obvious"]
  | maintainability, .c =>
    ["Reduce function length and nesting", "Document functions and classes"]
  | maintainability, .d =>
    ["Split the code into small, documented functions", "Remove duplicated blocks",
      "Flatten deeply nested logic"]
  | reliability, .b => ["Review edge cases such as empty inputs and missing values"]
  | reliability, .c => ["Validate inputs before use", "Handle errors from external operations"]
  | reliability, .d =>
    ["Guard every division, index and dereference", "Add error handling around risky operations"]
  | _, .a => []

end Quality

/-- What to do about issues of a category. -/
def Category.advice : Category → Text
  | .runtime => "Add validation checks before divisions, index access and dereferences"
  | .exception => "Wrap parsing, file and network operations in error handling"
  | .structural => "Split long or deeply nested functions into smaller units"
  | .readability => "Replace magic numbers with named constants and document public code"
  | .naming => "Use descriptive, consistently styled names"

/-- The groups that a rating names at most. -/
def maxRatingIssues : Nat := 10

variable {α : Type} [Scalar α]

/-- Refuses a number that could not be computed. -/
def inRange (x : α) : Except RatingError Unit :=
  match Scalar.overflow? x with
  | some e => .error (.overflow e)
  | none => .ok ()

/-- The outcome of a comparison, as part of a rating. -/
def compared (c : Comparison) {ν : Type} [Comparable ν] (x y : ν) : Except RatingError Bool :=
  (Comparable.compare c x y).mapError .incomparable

/-- The grade of a score, higher being better. -/
def gradeForScore (score aMin bMin cMin : α) : Grade :=
  if Scalar.le aMin score then .a
  else if Scalar.le bMin score then .b
  else if Scalar.le cMin score then .c
  else .d

/-- The rating of a score that is no finite number, the quality given by name. -/
def invalidScoreNamed (family description : Text) : Rating α where
  grade := .d
  score := Scalar.ofInt 0
  description := description
  reason := "The " ++ family ++ " score could not be computed"
  issues := ["Invalid " ++ family ++ " score provided"]

/-- The rating of a quality whose score is no finite number. -/
def invalidScore (q : Quality) : Rating α := invalidScoreNamed q.name (q.description .d)

/-- The rating of a family of any name whose score is no finite number. A name that is no quality is
described like reliability. -/
def invalidScoreOf (family : Text) : Rating α :=
  let q :=
    ([Quality.complexity, .maintainability, .reliability].find? (·.name = family)).getD .reliability
  invalidScoreNamed family (q.description .d)

/-- The advice on the categories of an aggregation, or the canned advice when it has none. -/
def Aggregation.advice (a : Aggregation α) (canned : List Text) : List Text :=
  match a.categories with
  | [] => canned
  | cs => cs.map (·.advice)

/-- The summaries of the costliest groups. -/
def Aggregation.summaries (a : Aggregation α) : List Text :=
  (a.groups.take maxRatingIssues).map (·.summary)

end SourceGrade
