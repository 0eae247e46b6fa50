import SourceGrade.Blocks.Basic
/-!
# Blocks by indentation

A line of code that ends with a colon opens a block, which lasts while the lines of code are
indented further. Its kind is that of the line's first word.
-/

namespace SourceGrade.Indentation

/-- The first word of a text, when the text begins with one. -/
def firstWord (t : Text) : Text :=
  match t with
  | [] => []
  | c :: r => if Pattern.isNameStart c then c :: r.takeWhile Text.isWordChar else []

/-- The open blocks with their indentation, innermost first, after a line of code. -/
def step (keywords : List (Text × BlockKind)) (open_ : List (Nat × BlockKind)) (l : SourceLine) :
    List (Nat × BlockKind) :=
  let around := open_.dropWhile (l.indent ≤ ·.1)
  if Text.endsWith ":" l.stripped then
    (l.indent, (keywords.lookup (firstWord l.stripped)).getD .other) :: around
  else around

/-- The stacks of the lines, outermost block first. A line without code changes nothing. -/
def stacksFrom (keywords : List (Text × BlockKind)) :
    List (Nat × BlockKind) → List SourceLine → List (List BlockKind)
  | _, [] => []
  | open_, l :: ls =>
    let open' := if l.hasCode then step keywords open_ l else open_
    (open'.map (·.2)).reverse :: stacksFrom keywords open' ls

/-- The stacks of the lines of a source whose blocks are indented. -/
def lineBlocks (source : Source) : List (List BlockKind) :=
  stacksFrom source.language.blockKeywords [] source.lines

end SourceGrade.Indentation
