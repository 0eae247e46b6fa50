import SourceGrade.Blocks.Keywords
/-!
# Where functions end

The last line of a function follows from its first line and the block style of the language. In
braces, a function without a body is no function.
-/

namespace SourceGrade.Extent

/-- What the characters from the header of a function on have shown of its body. -/
structure Body where
  depth : Nat
  parens : Nat
  opened : Bool
  deriving DecidableEq, Repr

/-- The outcome of reading some characters of a function. -/
inductive Progress where
  | going (body : Body)
  /-- A statement ends before any body. -/
  | refused
  /-- The brace that opened the body is closed. -/
  | closed
  deriving DecidableEq, Repr

/-- Reads one character. -/
def Body.read (b : Body) (c : Char) : Progress :=
  match c with
  | '(' => .going { b with parens := b.parens + 1 }
  | ')' => .going { b with parens := b.parens - 1 }
  | ';' => if !b.opened && b.parens == 0 then .refused else .going b
  | '{' => .going { b with depth := b.depth + 1, opened := true }
  | '}' =>
    if b.opened then
      if b.depth = 1 then .closed else .going { b with depth := b.depth - 1 }
    else .going b
  | _ => .going b

/-- Reads characters until the body is closed or the function is refused. -/
def Body.readAll (b : Body) : Text → Progress
  | [] => .going b
  | c :: r =>
    match b.read c with
    | .going b' => b'.readAll r
    | outcome => outcome

/-- The lines in which a body has to be opened. -/
def maxHeaderLines : Nat := 3

/-- The last line of a function with a body in braces. `index` counts the lines from its first, and
`last` is the last line read. -/
def bracedFrom (b : Body) (index last : Nat) : List (Nat × Text) → Option Nat
  | [] => if b.opened then some last else none
  | (number, code) :: lines =>
    match b.readAll code with
    | .refused => none
    | .closed => some number
    | .going b' =>
      if !b'.opened && maxHeaderLines ≤ index + 1 then none
      else bracedFrom b' (index + 1) number lines

/-- The last line of a function whose header starts at `offset` in the first of these lines. -/
def braced? (offset : Nat) : List SourceLine → Option Nat
  | [] => none
  | declaration :: rest =>
    bracedFrom ⟨0, 0, false⟩ 0 declaration.number
      ((declaration.number, declaration.code.drop offset) :: rest.map fun l => (l.number, l.code))

/-- The line that closes the parentheses of a header, or the last one, with the lines after it. -/
def signature (balance : Int) (declaration : SourceLine) :
    List SourceLine → SourceLine × List SourceLine
  | [] => (declaration, [])
  | l :: ls =>
    let balance := balance + l.code.count '(' - l.code.count ')'
    if balance ≤ 0 then (l, ls) else signature balance l ls

/-- The last line that is indented further than the declaration, before the first one that is not.
Lines without code do not count. -/
def indentedEnd (indent : Nat) (last : Nat) : List SourceLine → Nat
  | [] => last
  | l :: ls =>
    if !l.hasCode then indentedEnd indent last ls
    else if l.indent ≤ indent then last
    else indentedEnd indent l.number ls

/-- The last line of a function with an indented body, the declaration being the first of these
lines. -/
def indented? : List SourceLine → Option Nat
  | [] => none
  | declaration :: rest =>
    let (header, body) := signature 0 declaration (declaration :: rest)
    some (if Text.endsWith ":" header.stripped then
      indentedEnd declaration.indent header.number body
    else header.number)

/-- Words that open a block up to `end`. -/
def openers : List Text :=
  ["if", "unless", "while", "until", "for", "case", "begin", "def", "class", "module"]

/-- The first word of a line of code, dollar signs included. -/
def leadingWord (stripped : Text) : Text :=
  ((Pattern.identifier.matchStart stripped).map (·.text)).getD []

/-- The line of the `end` that closes `depth` open blocks, or the last line. -/
def keywordEnd (depth : Nat) (last : Nat) : List SourceLine → Nat
  | [] => last
  | l :: ls =>
    if !l.hasCode then keywordEnd depth l.number ls
    else
      let word := leadingWord l.stripped
      if word = ("end" : Text) then
        if depth ≤ 1 then l.number else keywordEnd (depth - 1) l.number ls
      else if openers.contains word && !Keywords.endsWithEnd.occursIn l.stripped then
        keywordEnd (depth + 1) l.number ls
      else if Keywords.endsWithDo.occursIn l.stripped then keywordEnd (depth + 1) l.number ls
      else keywordEnd depth l.number ls

/-- The last line of a function up to its `end`. -/
def keyword? : List SourceLine → Option Nat
  | [] => none
  | declaration :: rest =>
    some (if Keywords.endsWithEnd.occursIn declaration.stripped then declaration.number
      else keywordEnd 1 declaration.number rest)

/-- The last line of a function whose header starts at `offset` in the first of these lines. -/
def end? (style : BlockStyle) (offset : Nat) (lines : List SourceLine) : Option Nat :=
  match style with
  | .braces => braced? offset lines
  | .indentation => indented? lines
  | .keywords => keyword? lines

end SourceGrade.Extent
