import SourceGrade.Source.Scan
/-!
# Source units

A source unit is a text in a language, cut into lines. Each line is kept as written, as its code
alone and as its comment alone, with the width of its indentation.
-/

namespace SourceGrade

/-- A line of a source unit. -/
structure SourceLine where
  /-- Lines are counted from 1. -/
  number : Nat
  raw : Text
  /-- The code of the line, without comments and without the insides of strings. -/
  code : Text
  /-- The text of the comments on the line. -/
  comment : Text
  /-- The columns of blank space before the first character that is no space. -/
  indent : Nat
  deriving DecidableEq, Repr

namespace SourceLine

def isBlank (l : SourceLine) : Bool := Text.allBlank l.raw

def hasCode (l : SourceLine) : Bool := !Text.allBlank l.code

def hasComment (l : SourceLine) : Bool := !l.comment.isEmpty

def isCommentOnly (l : SourceLine) : Bool := !l.hasCode && !Text.allBlank l.comment

/-- The code of the line without the blanks around it. -/
def stripped (l : SourceLine) : Text := Text.strip l.code

end SourceLine

/-- The width of a tab stop. -/
def tabWidth : Nat := 4

/-- The columns of spaces at the beginning of a line, tabs widened. -/
def indentOf (raw : Text) : Nat := ((Text.expandTabs tabWidth raw).takeWhile (· == ' ')).length

/-- Labelled characters cut at the line ends; there is always at least one line. -/
def labelledLines : List (Char × Part) → List (List (Char × Part))
  | [] => [[]]
  | (c, part) :: r =>
    if part = .lineEnd then [] :: labelledLines r
    else
      match labelledLines r with
      | [] => [[(c, part)]]
      | l :: ls => ((c, part) :: l) :: ls

/-- The characters with a given label, in order. -/
def charsOf (part : Part) (line : List (Char × Part)) : Text :=
  (line.filter (·.2 = part)).map (·.1)

def SourceLine.ofLabelled (number : Nat) (line : List (Char × Part)) : SourceLine :=
  let raw := line.map (·.1)
  { number := number
    raw := raw
    code := Text.stripRight (charsOf .code line)
    comment := Text.strip (charsOf .comment line)
    indent := indentOf raw }

/-- A source unit. -/
structure Source where
  language : Language
  lines : List SourceLine

namespace Source

/-- Drops the line feed at the end of a text. -/
def dropFinalLineFeed : Text → Text
  | [] => []
  | ['\n'] => []
  | c :: r => c :: dropFinalLineFeed r

/-- A text with line ends of one kind, and none after the last line. -/
def normalize (t : Text) : Text := dropFinalLineFeed (Text.unifyLineEnds t)

/-- Numbers the lines from a first number on. -/
def numberFrom : Nat → List (List (Char × Part)) → List SourceLine
  | _, [] => []
  | n, l :: ls => .ofLabelled n l :: numberFrom (n + 1) ls

/-- The source unit of a text. The empty text has no lines. -/
def ofText (language : Language) (t : Text) : Source :=
  match t with
  | [] => ⟨language, []⟩
  | _ :: _ =>
    let text := normalize t
    ⟨language, numberFrom 1 (labelledLines (text.zip (language.scan text)))⟩

def lineCount (s : Source) : Nat := s.lines.length

def codeLines (s : Source) : List SourceLine := s.lines.filter (·.hasCode)

/-- The line with a number. -/
def line? (s : Source) (number : Nat) : Option SourceLine :=
  match number with
  | 0 => none
  | n + 1 => s.lines[n]?

/-- The lines from one number to another, both included. -/
def span (s : Source) (first last : Int) : List SourceLine :=
  let skip := (first - 1).toNat
  (s.lines.take last.toNat).drop skip

end Source

end SourceGrade
