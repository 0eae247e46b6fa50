import SourceGrade.Issue.Inspection
import SourceGrade.Issue.Rule
import SourceGrade.Measure.Complexity
import SourceGrade.Measure.Documentation
import SourceGrade.Measure.Duplication
import SourceGrade.Thresholds.Basic
/-!
# Smells in measurements

Functions that are too long, take too many parameters or branch too much, declarations without
documentation, and repeated blocks.
-/

namespace SourceGrade

variable {ι ρ : Type} [Comparable ι]

open Comparable

namespace FunctionSize

/-- The severity of a value above a lower limit, by whether it is above a higher one. -/
def severityAbove (higher : ι) (value : Nat) : Severity :=
  if exceeds value higher then .major else .minor

/-- The issues of one function. -/
def issuesOf (i : Inspection) (c : Complexity) (t : Thresholds ι ρ) (f : FunctionSpan)
    (l : SourceLine) : List Issue :=
  (if exceeds f.length t.longFunctionMinor then
    [i.issueAt .structural (severityAbove t.longFunctionMajor f.length)
      ("Function '" ++ f.name ++ "' is too long (" ++ Text.ofNat f.length ++ " lines)") l
      Rule.longFunction]
  else []) ++
  (if exceeds f.parameterCount t.maxParameters then
    [i.issueAt .structural .minor
      ("Function '" ++ f.name ++ "' has too many parameters (" ++
        Text.ofNat f.parameterCount ++ ")")
      l Rule.parameters]
  else []) ++
  (if exceeds (c.ofFunction f) t.functionComplexityMinor then
    [i.issueAt .structural (severityAbove t.functionComplexityMajor (c.ofFunction f))
      ("Function '" ++ f.name ++ "' is too complex (complexity " ++ Text.ofNat (c.ofFunction f) ++
        ")") l Rule.complexFunction]
  else [])

def issues (i : Inspection) (c : Complexity) (t : Thresholds ι ρ) : List Issue :=
  i.functions.flatMap fun f =>
    (i.source.line? f.startLine).toList.flatMap fun l => issuesOf i c t f l

end FunctionSize

namespace MissingDocs

/-- What is said about a declaration without documentation; nothing about a short function. -/
def describe? (i : Inspection) (t : Thresholds ι ρ) (name : Text) (line : Nat) : Option Text :=
  match i.functions.reverse.find? (·.startLine == line) with
  | some f =>
    if isWithin f.length t.longFunctionMinor then none
    else some ("Function '" ++ name ++ "' lacks documentation")
  | none => some ("Class '" ++ name ++ "' lacks documentation")

def issues (i : Inspection) (d : Documentation) (t : Thresholds ι ρ) : List Issue :=
  d.undocumented.filterMap fun (name, line) => do
    let description ← describe? i t name line
    let l ← i.source.line? line
    some (i.issueAt .readability .minor description l Rule.missingDocs)

end MissingDocs

namespace RepeatedBlock

/-- The issues of repeated blocks, major when more than a tenth of the lines are duplicated. -/
def issues (ρ : Type) [Scalar ρ] (i : Inspection) (d : Duplication) : List Issue :=
  let severity : Severity := if Scalar.gtInt (d.percent : ρ) 10 then .major else .minor
  d.blocks.filterMap fun b =>
    (i.source.line? b.duplicateLine).map fun l =>
      i.issueAt .structural severity
        ("Duplicated block of " ++ Text.ofNat b.length ++ " lines repeats line " ++
          Text.ofNat b.firstLine) l Rule.duplicate

end RepeatedBlock

end SourceGrade
