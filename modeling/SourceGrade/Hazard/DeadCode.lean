import SourceGrade.Hazard.Evidence
/-!
# Dead code

A statement that follows a jump at the same level is never reached, unless it goes on with an
enclosing construct.
-/

namespace SourceGrade.DeadCode

open Pattern

/-- Statements after which the next one is not reached. -/
def jump : Pattern :=
  start ++
    capture .keyword (oneOf ["return", "break", "continue", "throw", "raise", "panic", "os.Exit",
      "sys.exit", "System.exit"]) ++ wordEdge

/-- Beginnings of lines that go on with an enclosing construct. -/
def continuation : Pattern :=
  start ++
    (anyOf "\x7d])" |||
      oneOf ["case", "default", "else", "elif", "elsif", "except", "catch", "finally", "end",
        "rescue", "ensure", "when"] ++ wordEdge |||
      "#")

/-- Endings of lines that go on with the next line. -/
def openEndings : List Char :=
  ['(', '[', '{', ',', '\\', '+', '-', '*', '/', '=', '&', '|', '.', '?', ':']

/-- The jump of a line that the next line cannot follow. -/
def jump? (l next : SourceLine) : Option Text := do
  let m ← jump.matchStart l.stripped
  if l.stripped.getLast?.any openEndings.contains || next.indent != l.indent ||
      (continuation.matchStart next.stripped).isSome then none
  else some (m.textOf .keyword)

/-- The issues of some statements. -/
def issuesFrom (i : Inspection) : List SourceLine → List Issue
  | l :: next :: ls =>
    (((jump? l next).map fun word =>
      i.issueAt .structural .minor ("Unreachable code after '" ++ word ++ "'") next
        Rule.deadCode).toList) ++ issuesFrom i (next :: ls)
  | _ => []

def issues (i : Inspection) : List Issue := issuesFrom i i.statements

end SourceGrade.DeadCode
