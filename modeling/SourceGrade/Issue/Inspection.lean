import SourceGrade.Issue.Basic
import SourceGrade.Declaration.Basic
import SourceGrade.Blocks.Basic
import SourceGrade.Source.Basic
/-!
# Inspected code

What the checks for issues share: the source with its blocks and functions, the tags of a line, and
the making of an issue on a line.
-/

namespace SourceGrade

/-- A source unit with what is known about its blocks and functions. -/
structure Inspection where
  source : Source
  blocks : BlockMap
  functions : List FunctionSpan

open Pattern in
/-- Names of functions that test other code. -/
def testName : Pattern :=
  start ++ oneOf ["test", "Test"] ||| "_test" ++ finish ||| "Test" ++ finish |||
    "_spec" ++ finish ||| "Spec" ++ finish

/-- A lower-case letter in any case; the letter i also without or with a dot. -/
def anyCase (c : Char) : Pattern :=
  .one fun d => d == c || d == Char.ofNat (c.val.toNat - 32) ||
    (c == 'i' && (d.val == 0x130 || d.val == 0x131))

def anyCaseText : Text → Pattern
  | [] => .empty
  | c :: r => anyCase c ++ anyCaseText r

/-- Names of functions that serve other code. -/
def utilityName : Pattern := anyCaseText "util" ||| anyCaseText "helper"

namespace Inspection

def codeLines (i : Inspection) : List SourceLine := i.source.codeLines

/-- The innermost function around a line. -/
def functionAt? (i : Inspection) (line : Nat) : Option FunctionSpan :=
  FunctionSpan.innermost? i.functions line

/-- The first line of the innermost function around a line. -/
def scopeKey (i : Inspection) (line : Nat) : Option Nat := (i.functionAt? line).map (·.startLine)

/-- The tags of a line, sorted and each once. -/
def tags (i : Inspection) (line : Nat) : List Text :=
  let functionHas (p : Pattern) := (i.functionAt? line).any fun f => p.occursIn f.name
  ([("conditional", i.blocks.inConditional line), ("test", functionHas testName),
    ("try", i.blocks.inErrorHandling line), ("util", functionHas utilityName)] :
    List (Text × Bool)).filterMap fun (tag, holds) => if holds then some tag else none

/-- An issue on a line. -/
def issueAt (i : Inspection) (category : Category) (severity : Severity) (description : Text)
    (line : SourceLine) (rule : Text) : Issue :=
  .make category severity description (some line.number) rule (i.tags line.number) line.raw

end Inspection

end SourceGrade
