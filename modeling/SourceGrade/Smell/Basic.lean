import SourceGrade.Issue.Inspection
import SourceGrade.Issue.Rule
import SourceGrade.Pattern.Build
import SourceGrade.Number.Reading
/-!
# Smells in names, numbers and comments

Checks of single lines: numbers without a name, statements left over from debugging, comments on
unfinished work, names of one letter, and function names of two styles.
-/

namespace SourceGrade

open Pattern

namespace MagicNumber

/-- A number that is no part of a word or of another number. -/
def number : Pattern :=
  notAfter (fun c => Text.isWordChar c || c == '.' || c == '$') ++ optional "-" ++ digits1 ++
    optional ("." ++ digits1) ++ notAhead (wordCharOr ".")

/-- The name of a constant. -/
def constantName : Pattern :=
  between 'A' 'Z' ++ many (one fun c => ('A' ≤ c && c ≤ 'Z') || ('0' ≤ c && c ≤ '9') || c == '_')

/-- Code that gives a name to a number. -/
def constantDefinition : Pattern :=
  start ++ blanks ++ optional ("export" ++ blanks1) ++
      ("const" ||| "final" ||| "static" ++ blanks1 ++ "final" |||
        "static" ++ blanks1 ++ "readonly" ||| "readonly" ||| "enum") ++ wordEdge |||
    start ++ blanks ++
      many1 (oneOf ["public", "private", "protected", "static", "final"] ++ blanks1) ++
      many1 wordChar ++ blanks1 ++ constantName ++ blanks ++ "=" |||
    start ++ blanks ++ constantName ++ blanks ++ optional (":" ++ many1 (noneOf "=")) ++
      oneOf [":=", "="] ++ notAhead "=" |||
    start ++ blanks ++ "#" ++ blanks ++ "define" ++ wordEdge

/-- Numbers that need no name. -/
def isOrdinary (t : Text) : Bool :=
  (Reading.float? t).any fun x => x == 0 || x == 1 || x == -1 || x == 2 || x == 10 || x == 100

/-- The first number of a line that needs a name. -/
def find? (i : Inspection) (l : SourceLine) : Option Text :=
  let mark := i.source.language.directiveMark
  if i.functions.any (·.startLine == l.number) || constantDefinition.occursIn l.code ||
      (!mark.isEmpty && Text.startsWith mark l.stripped) then none
  else ((number.all l.code).map (·.text)).find? fun t => !isOrdinary t

def issues (i : Inspection) : List Issue :=
  i.codeLines.filterMap fun l =>
    (find? i l).map fun t =>
      i.issueAt .readability .minor ("Magic number " ++ t ++ " should be a named constant") l
        Rule.magicNumber

end MagicNumber

namespace DebugOutput

/-- Statements left over from debugging. -/
def statement : Pattern :=
  wordEdge ++ "console." ++ oneOf ["log", "debug", "trace", "dir"] ++ call |||
    wordEdge ++ "System." ++ oneOf ["out", "err"] ++ ".print" ++ many wordChar ++ call |||
    wholeWord "debugger" ||| ".printStackTrace" ++ call ||| wholeWord "binding.pry" |||
    wordEdge ++ "pdb.set_trace" ++ call ||| wordEdge ++ "breakpoint" ++ call ++ blanks ++ ")"

def issues (i : Inspection) : List Issue :=
  (i.codeLines.filter fun l => statement.occursIn l.code).map fun l =>
    i.issueAt .readability .minor "Debug output statement left in code" l Rule.debugOutput

end DebugOutput

namespace TodoComment

/-- A word that marks unfinished work. -/
def mark : Pattern :=
  wordEdge ++ capture .keyword (oneOf ["TODO", "FIXME", "HACK", "XXX"]) ++ wordEdge

def issues (i : Inspection) : List Issue :=
  i.source.lines.filterMap fun l =>
    (mark.search l.comment).map fun m =>
      i.issueAt .readability .minor (m.textOf .keyword ++ " comment marks unfinished work") l
        Rule.todo

end TodoComment

namespace ShortName

def loopHead : Pattern := start ++ blanks ++ "for" ++ wordEdge

/-- A declaration of a variable with a one-letter name. -/
def typedDeclaration : Pattern :=
  wordEdge ++ oneOf ["let", "var", "const", "int", "float", "double", "char", "long", "short",
      "auto", "bool", "boolean", "String", "val"] ++ blanks1 ++
    capture .name (one Text.isAsciiLetter) ++ blanks ++ (anyOf "=;,:)" ||| finish)

/-- An assignment to a one-letter name. -/
def plainAssignment : Pattern :=
  start ++ blanks ++ capture .name (one Text.isAsciiLetter) ++ blanks ++ oneOf [":=", "="] ++
    notAhead "="

/-- One-letter names of counters, coordinates and the like. -/
def conventional : List Text := ["i", "j", "k", "x", "y", "z", "n", "m", "_", "e"]

/-- The one-letter name that a line brings in. -/
def find? (l : SourceLine) : Option Text :=
  if (loopHead.matchStart l.code).isSome then none
  else
    ((typedDeclaration.search l.code).orElse fun _ => plainAssignment.matchStart l.code).map
      (·.textOf .name)

/-- The issues of some lines; names in `seen` are reported already or need no report. -/
def issuesFrom (i : Inspection) (seen : List Text) : List SourceLine → List Issue
  | [] => []
  | l :: ls =>
    match (find? l).filter fun name => !seen.contains name with
    | none => issuesFrom i seen ls
    | some name =>
      i.issueAt .naming .minor ("Variable name '" ++ name ++ "' is not descriptive") l
        Rule.shortName :: issuesFrom i (name :: seen) ls

def issues (i : Inspection) : List Issue := issuesFrom i conventional i.codeLines

end ShortName

namespace MixedNaming

def lowerLetter : Pattern := between 'a' 'z'

def isLowerOrDigit (c : Char) : Bool := ('a' ≤ c && c ≤ 'z') || Text.isAsciiDigit c

/-- Names such as `camelCase`. -/
def camelCase : Pattern :=
  start ++ lowerLetter ++ many (one isLowerOrDigit) ++ between 'A' 'Z' ++
    many (one fun c => Text.isAsciiLetter c || Text.isAsciiDigit c) ++ finish

/-- Names such as `snake_case`. -/
def snakeCase : Pattern :=
  start ++ lowerLetter ++ many (one isLowerOrDigit) ++ many1 ("_" ++ many1 (one isLowerOrDigit)) ++
    finish

/-- The issue of two styles in one unit, at the first function of the rarer style. -/
def issues (i : Inspection) : List Issue :=
  let camel := i.functions.filter fun f => camelCase.occursIn f.name
  let snake := i.functions.filter fun f => snakeCase.occursIn f.name
  if camel.isEmpty || snake.isEmpty then []
  else
    let rarer := if camel.length < snake.length then camel else snake
    (rarer.head?.bind fun f => i.source.line? f.startLine).toList.map fun l =>
      i.issueAt .naming .minor "Function names mix camelCase and snake_case" l Rule.mixedNaming

end MixedNaming

end SourceGrade
