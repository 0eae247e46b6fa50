import SourceGrade.Blocks.Indentation
/-!
# Blocks between words

A line that begins with an opening word, or that ends with `do` and its variables, opens a block;
a line that begins with `end` closes the innermost one and still belongs to it. A continuation such
as `else` changes the kind of the innermost block.
-/

namespace SourceGrade.Keywords

open Pattern

/-- A line that ends with the word `end` closes what it opens. -/
def endsWithEnd : Pattern := wordEdge ++ "end" ++ blanks ++ finish

/-- A line that ends with `do` and the variables of its block. -/
def endsWithDo : Pattern :=
  wordEdge ++ "do" ++ blanks ++ optional ("|" ++ many (noneOf "|") ++ "|") ++ blanks ++ finish

/-- Words that go on with an open block. -/
def continuations : List Text := ["elsif", "else", "when", "rescue", "ensure"]

/-- The open blocks after a line, innermost first, when the line does not begin with `end`. -/
def opened (keywords : List (Text × BlockKind)) (stack : List BlockKind) (stripped : Text) :
    List BlockKind :=
  let first := Indentation.firstWord stripped
  let loop := if endsWithDo.occursIn stripped then .loop :: stack else stack
  if continuations.contains first then
    match stack with
    | [] => loop
    | kind :: rest => (keywords.lookup first).getD kind :: rest
  else
    match keywords.lookup first with
    | some kind => if endsWithEnd.occursIn stripped then loop else kind :: stack
    | none => loop

/-- The stacks of the lines, outermost block first. -/
def stacksFrom (keywords : List (Text × BlockKind)) :
    List BlockKind → List SourceLine → List (List BlockKind)
  | _, [] => []
  | stack, l :: ls =>
    if Indentation.firstWord l.stripped = ("end" : Text) then
      stack.reverse :: stacksFrom keywords stack.tail ls
    else
      let stack' := opened keywords stack l.stripped
      stack'.reverse :: stacksFrom keywords stack' ls

/-- The stacks of the lines of a source whose blocks stand between words. -/
def lineBlocks (source : Source) : List (List BlockKind) :=
  stacksFrom source.language.blockKeywords [] source.lines

end SourceGrade.Keywords
