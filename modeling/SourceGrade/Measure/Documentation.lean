import SourceGrade.Declaration.Basic
import SourceGrade.Source.Basic
import SourceGrade.Number.Comparable
/-!
# Documentation

A declaration is documented by a comment above it, with annotations and a few empty lines between,
or, where the language has them, by a text at the head of its body.
-/

namespace SourceGrade

/-- The declarations of a unit that have and that lack documentation. -/
structure Documentation where
  declarations : Nat
  documented : Nat
  /-- The names and lines of declarations without documentation, by line. -/
  undocumented : List (Text × Nat)
  deriving DecidableEq, Repr

namespace Documentation

/-- The beginnings of lines that open a text at the head of a body. -/
def docstringMarks : List Text := ["\"\"\"", "'''", "r\"\"\"", "r'''", "u\"\"\"", "u'''"]

/-- The beginnings of lines that annotate the declaration below. -/
def annotationMarks : List Text := ["@", "#[", "["]

/-- The lines after a declaration on which the text at the head of its body may begin. -/
def docstringReach : Nat := 12

section

variable {ι : Type} [Comparable ι]

/-- Whether the lines above a declaration, nearest first, lead to a comment. Fewer lines without
code and comment than the limit `lookback` are passed over, `passed` of them so far. -/
def leadsToComment (lookback : ι) : (passed : Nat) → List SourceLine → Bool
  | _, [] => false
  | passed, l :: ls =>
    if !Comparable.isBelow passed lookback then false
    else if annotationMarks.any fun mark => Text.startsWith mark l.stripped then
      leadsToComment lookback passed ls
    else if l.isCommentOnly then true
    else if l.hasCode then false
    else leadsToComment lookback (passed + 1) ls

/-- Whether a comment stands above a line. -/
def hasLeadingComment (s : Source) (lookback : ι) (line : Nat) : Bool :=
  leadsToComment lookback 0 (s.lines.take (line - 1)).reverse

end

/-- Whether the first line after a signature that is not blank opens a text. The signature ends
where its parentheses balance and a colon ends the line. -/
def opensDocstring : (signatureDone : Bool) → (balance : Int) → List SourceLine → Bool
  | _, _, [] => false
  | false, balance, l :: ls =>
    let balance := balance + l.code.count '(' - l.code.count ')'
    opensDocstring (balance ≤ 0 && Text.endsWith ":" l.stripped) balance ls
  | true, balance, l :: ls =>
    if l.isBlank then opensDocstring true balance ls
    else l.isCommentOnly &&
      docstringMarks.any fun mark => Text.startsWith mark (Text.stripLeft l.raw)

/-- Whether a text stands at the head of the body of a declaration. -/
def hasDocstring (s : Source) (line : Nat) : Bool :=
  opensDocstring false 0 (s.span line (line + docstringReach : Nat))

def isDocumented {ι : Type} [Comparable ι] (s : Source) (lookback : ι) (line : Nat) : Bool :=
  hasLeadingComment s lookback line || (s.language.docstrings && hasDocstring s line)

/-- The declarations with their lines, in the order of the lines. On a line with a function and a
class the function counts. -/
def declared (functions : List FunctionSpan) (classes : List ClassDeclaration) :
    List (Text × Nat) :=
  let named := functions.map fun f => (f.name, f.startLine)
  let others := (classes.filter fun c => !named.any (·.2 == c.line)).map fun c => (c.name, c.line)
  (named ++ others).mergeSort (·.2 ≤ ·.2)

def ofSource {ι : Type} [Comparable ι] (s : Source) (functions : List FunctionSpan)
    (classes : List ClassDeclaration) (lookback : ι) : Documentation :=
  let all := declared functions classes
  let undocumented := all.filter fun d => !isDocumented s lookback d.2
  ⟨all.length, all.length - undocumented.length, undocumented⟩

/-- The share of documented declarations in percent, or a neutral value when there are none. -/
def coverage {α : Type} [Scalar α] (neutral : α) (d : Documentation) : α :=
  if d.declarations = 0 then neutral
  else Scalar.ofRatio d.documented d.declarations * Scalar.ofInt 100

end Documentation

end SourceGrade
