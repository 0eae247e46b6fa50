import SourceGrade.Issue.Basic
import SourceGrade.Issue.Rule
import SourceGrade.Text.Case
/-!
# Confirmed critical issues

A critical issue is confirmed when its description names a crash, or when it was found by the
structure of the code and nothing around it handles errors.
-/

namespace SourceGrade

namespace Issue

/-- Descriptions that name a crash contain one of these. -/
def crashPhrases : List Text :=
  ["null pointer", "divide by zero", "division by zero", "array index out of bounds",
    "buffer overflow", "memory leak", "segmentation fault", "stack overflow",
    "infinite recursion", "deadlock", "race condition", "crash", "fatal error"]

/-- Rules that look for a guard on the way to the line. -/
def structuralRules : List Text := [Rule.division, Rule.index, Rule.dereference]

def isConfirmedCritical (i : Issue) : Bool :=
  i.severity.isCritical &&
    (crashPhrases.any (fun phrase => Text.occurs phrase (Text.lower i.description)) ||
      (structuralRules.contains i.rule && !i.context.contains ("try" : Text)))

end Issue

end SourceGrade
