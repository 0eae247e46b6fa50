import SourceGrade.Issue.Inspection
import SourceGrade.Issue.Rule
import SourceGrade.Pattern.Build
/-!
# Evidence of guards

A risky construct is guarded when one of some patterns occurs before it in its scope: the innermost
function around it, or all the code. Lines for the compiler do not count.
-/

namespace SourceGrade

open Pattern

/-- A name or expression that stands by itself. -/
def term (t : Text) : Pattern :=
  notAfter (fun c => isIdentifierChar c || c == '.') ++ literal t ++ notAhead (one isIdentifierChar)

/-- The blanks around points, parentheses and square brackets. -/
def looseBracket : Pattern := blanks ++ capture .keyword (anyOf ".()[]") ++ blanks

/-- Code without blanks around points, parentheses and square brackets. -/
def compact (code : Text) : Text := looseBracket.replaceAll (·.textOf .keyword) code

/-- A condition that tests a term by itself. -/
def truthinessCheck (term : Pattern) : Pattern :=
  wholeWordOf ["if", "elif", "while", "unless", "assert", "guard"] ++
    many (one fun c => Text.isBlank c || c == '(' || c == '!') ++ optional ("not" ++ blanks1) ++
    term ++ blanks ++
    (")" ||| ":" ||| "\x7b" ||| "&&" ||| "||" ||| wholeWord "and" ||| wholeWord "or" |||
      wholeWord "else" ||| wholeWord "then" ||| finish)

/-- The words for the absence of a value. -/
def nullWord : Pattern := oneOf ["null", "None", "nil", "undefined", "NULL", "nullptr"]

/-- A character that is no word character and no point does not precede. -/
def notAfterMember : Pattern := notAfter fun c => Text.isWordChar c || c == '.'

namespace Inspection

def isDirective (i : Inspection) (l : SourceLine) : Bool :=
  !i.source.language.directiveMark.isEmpty &&
    Text.startsWith i.source.language.directiveMark l.stripped

/-- The lines of code that are not meant for the compiler. -/
def statements (i : Inspection) : List SourceLine :=
  i.codeLines.filter fun l => !i.isDirective l

/-- The statements in the innermost function around a line, or all of them. -/
def scope (i : Inspection) (line : Nat) : List SourceLine :=
  match i.functionAt? line with
  | none => i.statements
  | some f => i.statements.filter fun l => f.contains l.number

end Inspection

/-- Whether one of the patterns occurs in the scope up to a line. -/
def guarded (patterns : List Pattern) (scope : List SourceLine) (upto : Nat) : Bool :=
  (scope.takeWhile (·.number ≤ upto)).any fun l =>
    let code := compact l.code
    patterns.any (·.occursIn code)

/-- The first items of each key. -/
def firstOfKey {κ β : Type} [BEq κ] (key : β → κ) : (seen : List κ) → List β → List β
  | _, [] => []
  | seen, x :: xs =>
    if seen.contains (key x) then firstOfKey key seen xs
    else x :: firstOfKey key (key x :: seen) xs

end SourceGrade
