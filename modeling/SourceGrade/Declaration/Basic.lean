import SourceGrade.Text.Basic
/-!
# Declarations

Functions with the lines they cover and their parameters, and classes with the line they begin on.
-/

namespace SourceGrade

/-- A function: its first and last line, and its parameters. -/
structure FunctionSpan where
  name : Text
  startLine : Nat
  endLine : Nat
  parameters : List Text
  /-- The parameters that may be null. -/
  nullableParameters : List Text
  deriving DecidableEq, Repr

namespace FunctionSpan

def parameterCount (f : FunctionSpan) : Nat := f.parameters.length

/-- The number of lines of a function. -/
def length (f : FunctionSpan) : Nat := f.endLine + 1 - f.startLine

def contains (f : FunctionSpan) (line : Nat) : Bool := f.startLine ≤ line && line ≤ f.endLine

/-- Whether two spans have the same name and first line. -/
def sameKey (f g : FunctionSpan) : Bool := f.name == g.name && f.startLine == g.startLine

/-- The innermost function around a line; of equally long ones the first. -/
def innermost? (functions : List FunctionSpan) (line : Nat) : Option FunctionSpan :=
  functions.foldl (fun best f =>
    if f.contains line && best.all (f.length < ·.length) then some f else best) none

end FunctionSpan

/-- A class-like declaration. -/
structure ClassDeclaration where
  name : Text
  line : Nat
  deriving DecidableEq, Repr

end SourceGrade
