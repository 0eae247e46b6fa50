import SourceGrade.Declaration.Basic
import SourceGrade.Declaration.Parameters
import SourceGrade.Declaration.Extent
/-!
# Finding declarations

Each line of code is tried against the shapes of declarations of its language; the first shape that
fits decides. A parameter list that is not closed on its line runs on over the lines after it.
-/

namespace SourceGrade

/-- Words that a declaration shape picks up from control statements and calls. -/
def notFunctionNames : List Text :=
  ["if", "for", "while", "switch", "catch", "return", "else", "do", "new", "sizeof", "with", "elif",
    "until", "unless", "synchronized", "function", "typeof", "await", "yield", "throw", "case",
    "foreach", "using", "lock", "delete", "assert", "print", "match", "loop", "select", "defer",
    "go"]

/-- The lines after its first over which a parameter list may run. -/
def maxParameterLines : Nat := 20

/-- The pieces of a parameter list on the lines after its first, up to a closing parenthesis. -/
def parameterTail : List SourceLine → List Text
  | [] => []
  | l :: ls =>
    if l.code.contains ')' then [l.code.takeWhile (· != ')')] else l.code :: parameterTail ls

/-- The text of the parameter list of a header, `following` being the lines after it. -/
def parameterText (code : Text) (m : Match) (following : List SourceLine) : Text :=
  match m.capture? .parameters with
  | none => []
  | some c =>
    if (code.drop c.start).contains ')' || !(code.take (c.start + 1)).contains '(' then c.text
    else Text.join "," (code.drop c.start :: parameterTail (following.take maxParameterLines))

namespace Source

/-- The function that a shape finds on the first of these lines. -/
def functionOf? (language : Language) (declaration : SourceLine) (following : List SourceLine)
    (shape : Pattern) : Option FunctionSpan := do
  let m ← shape.search declaration.code
  let name := m.textOf .name
  if notFunctionNames.contains name then none
  else
    let last ← Extent.end? language.blockStyle m.start (declaration :: following)
    let text := parameterText declaration.code m following
    some ⟨name, declaration.number, last, Parameters.names language text,
      Parameters.nullable language text⟩

/-- The functions that begin on these lines. -/
def functionsFrom (language : Language) : List SourceLine → List FunctionSpan
  | [] => []
  | l :: ls =>
    (if l.hasCode then (language.functions.findSome? (functionOf? language l ls)).toList else []) ++
      functionsFrom language ls

/-- The functions of a source, in the order of their first lines. -/
def functions (s : Source) : List FunctionSpan := functionsFrom s.language s.lines

/-- The classes of a source, in the order of their lines. -/
def classes (s : Source) : List ClassDeclaration :=
  s.codeLines.filterMap fun l =>
    (s.language.classes.findSome? (·.search l.code)).map fun m => ⟨m.textOf .name, l.number⟩

end Source

end SourceGrade
