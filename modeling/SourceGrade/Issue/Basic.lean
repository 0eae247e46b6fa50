import SourceGrade.Text.Basic
/-!
# Issues

An issue is one detected problem: what kind it is, how severe, where it is, how long it takes to
mend, and what is known about the code around it.
-/

namespace SourceGrade

inductive Category where
  | runtime | exception | structural | readability | naming
  deriving DecidableEq, Repr

namespace Category

def name : Category → Text
  | runtime => "runtime"
  | exception => "exception"
  | structural => "structure"
  | readability => "readability"
  | naming => "naming"

def all : List Category := [runtime, exception, structural, readability, naming]

/-- The categories that count for reliability. -/
def reliability : List Category := [runtime, exception]

/-- The categories that count for maintainability. -/
def maintainability : List Category := [structural, readability, naming]

end Category

inductive Severity where
  | minor | major | critical | blocker
  deriving DecidableEq, Repr

namespace Severity

def name : Severity → Text
  | minor => "minor"
  | major => "major"
  | critical => "critical"
  | blocker => "blocker"

def all : List Severity := [minor, major, critical, blocker]

/-- The place of a severity among all, from the least on. -/
def rank : Severity → Nat
  | minor => 0
  | major => 1
  | critical => 2
  | blocker => 3

/-- Whether an issue of this severity counts as a major violation. -/
def isMajor : Severity → Bool
  | minor => false
  | _ => true

def isCritical : Severity → Bool
  | critical | blocker => true
  | _ => false

/-- The first of the highest severities in a list that begins with `s`. -/
def highest (s : Severity) (rest : List Severity) : Severity :=
  rest.foldl (fun best t => if best.rank < t.rank then t else best) s

end Severity

/-- A grade, from the best to the worst. -/
inductive Grade where
  | a | b | c | d
  deriving DecidableEq, Repr

namespace Grade

def name : Grade → Text
  | a => "A"
  | b => "B"
  | c => "C"
  | d => "D"

/-- The place of a grade, the best first. -/
def rank : Grade → Nat
  | a => 0
  | b => 1
  | c => 2
  | d => 3

end Grade

structure Issue where
  category : Category
  severity : Severity
  description : Text
  line? : Option Int := none
  remediationMinutes : Int := 0
  rule : Text := []
  /-- What is known about the code around the line, such as `try` or `test`. -/
  context : List Text := []
  snippet : Text := []
  deriving DecidableEq, Repr

namespace Issue

/-- The line of an issue, when it has one that is not zero. -/
def shownLine? (i : Issue) : Option Int := i.line?.filter (· ≠ 0)

/-- A description with the line before it, when there is one to show. -/
def located (i : Issue) (t : Text) : Text :=
  match i.shownLine? with
  | some n => "Line " ++ Text.ofInt n ++ ": " ++ t
  | none => t

end Issue

/-- The minutes it takes to mend an issue, by category and severity. -/
def remediation : Category → Severity → Nat
  | .runtime, .minor => 5
  | .runtime, .major => 15
  | .runtime, .critical => 30
  | .runtime, .blocker => 45
  | .exception, .minor => 5
  | .exception, .major => 10
  | .exception, .critical => 20
  | .exception, .blocker => 30
  | .structural, .minor => 10
  | .structural, .major => 20
  | .structural, .critical => 45
  | .structural, .blocker => 60
  | .readability, .minor => 2
  | .readability, .major => 5
  | .readability, .critical => 10
  | .readability, .blocker => 15
  | .naming, .minor => 3
  | .naming, .major => 8
  | .naming, .critical => 15
  | .naming, .blocker => 20

/-- The characters of a line that an issue shows at most. -/
def snippetLength : Nat := 200

/-- An issue with its remediation time filled in and its snippet cut. -/
def Issue.make (category : Category) (severity : Severity) (description : Text)
    (line? : Option Int) (rule : Text) (context : List Text) (snippet : Text) : Issue where
  category := category
  severity := severity
  description := description
  line? := line?
  remediationMinutes := remediation category severity
  rule := rule
  context := context
  snippet := (Text.strip snippet).take snippetLength

end SourceGrade
