import SourceGrade.Language.Basic
/-!
# Scanning code

The scanner labels every character of a text: it belongs to the code, to a comment, to neither (the
marks of comments and the insides of strings), or it ends a line. Which label a character gets
depends on the mode the scanner is in, on whether the line has code so far, and on the marks that
follow. A string keeps its two delimiters as code.
-/

namespace SourceGrade

/-- What a character of a text is for. -/
inductive Part where
  | code | comment | hidden | lineEnd
  deriving DecidableEq, Repr

/-- What the scanner is inside of. -/
inductive ScanMode where
  | code
  | lineComment
  /-- A comment up to the given ending. -/
  | blockComment (ending : Text)
  /-- A string up to the given delimiter. -/
  | string (delimiter : Char)
  deriving DecidableEq, Repr

/-- The state of the scanner between two characters. -/
structure ScanState where
  mode : ScanMode
  /-- Whether the line has code so far that is not blank. -/
  lineHasCode : Bool
  deriving DecidableEq, Repr

namespace ScanState

def initial : ScanState := ⟨.code, false⟩

end ScanState

open Pattern in
/-- A line for the compiler, such as an inclusion or a definition. -/
def directive : Pattern :=
  "#" ++ oneOf ["include", "define", "undef", "ifdef", "ifndef", "if", "elif", "else", "endif",
    "pragma", "error"] ++ wordEdge

namespace Language

/-- The comment with its own ending that begins a text: the length of its beginning, and its
ending. -/
def blockCommentAt? (l : Language) (t : Text) : Option (Nat × Text) :=
  l.blockComments.findSome? fun (opening, ending) =>
    if Text.startsWith opening t then some (opening.length, ending) else none

/-- Whether a text begins with a directive rather than with a comment; only the first code of a
line can be one. -/
def directiveAt (l : Language) (lineHasCode : Bool) (t : Text) : Bool :=
  !l.directiveMark.isEmpty && Text.startsWith l.directiveMark t && !lineHasCode &&
    (directive.matchStart t).isSome

/-- The length of the mark of a comment up to the end of the line, when a text begins with one. -/
def lineCommentAt? (l : Language) (lineHasCode : Bool) (t : Text) : Option Nat :=
  l.lineComments.findSome? fun mark =>
    if Text.startsWith mark t && !l.directiveAt lineHasCode t then some mark.length else none

def isStringDelimiter (l : Language) (c : Char) : Bool :=
  l.stringDelimiters.contains c || l.multilineDelimiters.contains c

/-- The mode on the line after: a comment up to the end of the line ends, and so does a string whose
delimiter does not span lines. -/
def modeAfterLine (l : Language) : ScanMode → ScanMode
  | .lineComment => .code
  | .string d => if l.multilineDelimiters.contains d then .string d else .code
  | m => m

/-- The label of the first character of a text, how many characters after it are hidden with it,
and the state after all of these. -/
def scanStep (l : Language) (s : ScanState) (c : Char) (r : Text) : Part × Nat × ScanState :=
  if c = '\n' then (.lineEnd, 0, ⟨l.modeAfterLine s.mode, false⟩)
  else
    match s.mode with
    | .lineComment => (.comment, 0, s)
    | .blockComment ending =>
      if Text.startsWith ending (c :: r) then
        (.hidden, ending.length - 1, { s with mode := .code })
      else (.comment, 0, s)
    | .string d =>
      if c = l.escape && r.head?.any (· != '\n') then (.hidden, 1, s)
      else if c = d then (.code, 0, ⟨.code, true⟩)
      else (.hidden, 0, s)
    | .code =>
      match l.blockCommentAt? (c :: r) with
      | some (length, ending) => (.hidden, length - 1, { s with mode := .blockComment ending })
      | none =>
        match l.lineCommentAt? s.lineHasCode (c :: r) with
        | some length => (.hidden, length - 1, { s with mode := .lineComment })
        | none =>
          if l.isStringDelimiter c then (.code, 0, ⟨.string c, true⟩)
          else (.code, 0, { s with lineHasCode := s.lineHasCode || !Text.isBlank c })

/-- The labels of a text, one for each character. The first `skip` characters are hidden. -/
def scanFrom (l : Language) : ScanState → (skip : Nat) → Text → List Part
  | _, _, [] => []
  | s, skip + 1, _ :: r => .hidden :: scanFrom l s skip r
  | s, 0, c :: r =>
    let (part, skip, s') := l.scanStep s c r
    part :: scanFrom l s' skip r

/-- The labels of a text, one for each character. -/
def scan (l : Language) (t : Text) : List Part := l.scanFrom .initial 0 t

end Language

end SourceGrade
