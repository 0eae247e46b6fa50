import SourceGrade.Hazard.Division
import SourceGrade.Measure.Nesting
import SourceGrade.Number.Comparable
/-!
# Deep nesting

Functions nested deeper than a limit are reported at their deepest line, the shortest function first
and each line once. The deepest line outside all functions is reported like a function.
-/

namespace SourceGrade.DeepNesting

/-- The depths from which on nesting is reported, and is reported as major. -/
structure Limits (ι : Type) where
  warn : ι
  major : ι

variable {ι : Type} [Comparable ι]

open Comparable

def issueAt (i : Inspection) (limits : Limits ι) (depth line : Nat) (place : Text) : Issue :=
  .make .structural (if reaches depth limits.major then .major else .minor)
    ("Excessive nesting depth of " ++ Text.ofNat depth ++ " levels in " ++ place) (some line)
    Rule.nesting (i.tags line) (((i.source.line? line).map (·.raw)).getD [])

/-- A reported place: the depth, its line, and what is nested there. -/
structure Finding where
  depth : Nat
  line : Nat
  place : Text
  deriving DecidableEq, Repr

/-- The functions that are too deep, each line once. -/
def functionFindings (n : Nesting) (limits : Limits ι) (flagged : List Nat) :
    List FunctionSpan → Except HazardError (List Finding)
  | [] => .ok []
  | f :: fs =>
    let d := n.ofFunction f
    if isWithin d.depth limits.warn then functionFindings n limits flagged fs
    else
      match d.deepestLine? with
      | none => .error .noDeepestLine
      | some line =>
        if flagged.contains line then functionFindings n limits flagged fs
        else
          (functionFindings n limits (line :: flagged) fs).map
            (⟨d.depth, line, "'" ++ f.name ++ "'"⟩ :: ·)

/-- The greatest depth outside all functions, with the first line that has it. -/
def topLevel (i : Inspection) : (line : Nat) → (best : Option (Nat × Nat)) → List Nat →
    Option (Nat × Nat)
  | _, best, [] => best
  | line, best, d :: ds =>
    let best :=
      if (i.functionAt? line).isSome then best
      else if best.all (·.1 < d) then some (d, line) else best
    topLevel i (line + 1) best ds

/-- The place outside all functions that is too deep, unless its line is flagged. -/
def topLevelFindings (i : Inspection) (n : Nesting) (limits : Limits ι) (flagged : List Nat) :
    List Finding :=
  match topLevel i 1 none n.lineDepths with
  | none => []
  | some (depth, line) =>
    if exceeds depth limits.warn && !flagged.contains line then [⟨depth, line, "top-level code"⟩]
    else []

/-- The functions in the order of their lengths. -/
def byLength (functions : List FunctionSpan) : List FunctionSpan :=
  functions.mergeSort fun f g => f.length ≤ g.length

def findings (i : Inspection) (n : Nesting) (limits : Limits ι) :
    Except HazardError (List Finding) :=
  (functionFindings n limits [] (byLength i.functions)).map fun found =>
    found ++ topLevelFindings i n limits (found.map (·.line))

def issues (i : Inspection) (n : Nesting) (limits : Limits ι) : Except HazardError (List Issue) :=
  (findings i n limits).map fun found =>
    found.map fun f => issueAt i limits f.depth f.line f.place

end SourceGrade.DeepNesting
