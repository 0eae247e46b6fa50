import SourceGrade.Hazard.Division
import SourceGrade.Hazard.Indexing
import SourceGrade.Hazard.Dereference
import SourceGrade.Hazard.Call
import SourceGrade.Hazard.Resource
import SourceGrade.Hazard.Nesting
import SourceGrade.Hazard.DeadCode
/-!
# The search for hazards

All rules for hazards at run time, in a fixed order.
-/

namespace SourceGrade

variable {ι : Type} [Comparable ι]

/-- The rules for hazards, in their order. -/
inductive HazardRule where
  | division | indexing | dereference | riskyCalls | userInput | resources | nesting | deadCode
  deriving DecidableEq, Repr

namespace HazardRule

def all : List HazardRule :=
  [division, indexing, dereference, riskyCalls, userInput, resources, nesting, deadCode]

/-- The issues that a rule finds. -/
def issues (rule : HazardRule) (i : Inspection) (n : Nesting) (limits : DeepNesting.Limits ι) :
    Except HazardError (List Issue) :=
  match rule with
  | division => Division.issues i
  | indexing => .ok (Indexing.issues i)
  | dereference => .ok (Dereference.issues i)
  | riskyCalls => .ok (RiskyCall.issues i)
  | userInput => .ok (UserInput.issues i)
  | resources => .ok (Resource.issues i)
  | nesting => DeepNesting.issues i n limits
  | deadCode => .ok (DeadCode.issues i)

/-- The issues that some rules find, in the order of the rules. -/
def issuesOf (i : Inspection) (n : Nesting) (limits : DeepNesting.Limits ι) :
    List HazardRule → Except HazardError (List Issue)
  | [] => .ok []
  | rule :: rules =>
    match rule.issues i n limits with
    | .error e => .error e
    | .ok found => (issuesOf i n limits rules).map (found ++ ·)

end HazardRule

/-- The issues that all rules for hazards find. -/
def scanHazards (i : Inspection) (n : Nesting) (limits : DeepNesting.Limits ι) :
    Except HazardError (List Issue) :=
  HazardRule.issuesOf i n limits HazardRule.all

end SourceGrade
