import SourceGrade.Issue.Inspection
import SourceGrade.Issue.Rule
import SourceGrade.Pattern.Build
/-!
# Swallowed errors

A handler of errors that does nothing. What counts as nothing depends on the block style.
-/

namespace SourceGrade.EmptyCatch

open Pattern

/-- A handler in braces, with what follows its opening brace. -/
def bracedHandler : Pattern :=
  wholeWord "catch" ++ many (noneOf "\x7b") ++ "\x7b" ++ capture .rest (many inLine) ++ finish

/-- A handler that ends its line with a colon, with what follows the colon. -/
def indentedHandler : Pattern :=
  start ++ "except" ++ wordEdge ++ many (noneOf ":") ++ ":" ++ blanks ++
    capture .rest (many inLine) ++ finish

def keywordHandler : Pattern := start ++ "rescue" ++ wordEdge

/-- Lines after which nothing has been done in a handler between words. -/
def keywordEnd : Pattern := start ++ oneOf ["end", "ensure", "else", "rescue"] ++ wordEdge

/-- Statements that do nothing. -/
def emptyStatements : List Text := ["", "pass", "..."]

/-- Whether a line opens a handler in braces that does nothing. -/
def inBraces (l : SourceLine) (following : List SourceLine) : Bool :=
  match bracedHandler.search l.code with
  | none => false
  | some m =>
    let rest := Text.strip (m.textOf .rest)
    if rest.isEmpty then following.head?.any fun n => Text.startsWith "\x7d" n.stripped
    else Text.startsWith "\x7d" rest

/-- Whether a line opens an indented handler that does nothing. -/
def inIndentation (l : SourceLine) (following : List SourceLine) : Bool :=
  match indentedHandler.matchStart l.stripped with
  | none => false
  | some m =>
    let rest := Text.strip (m.textOf .rest)
    if rest.isEmpty then
      (following.takeWhile (l.indent < ·.indent)).all fun n => emptyStatements.contains n.stripped
    else emptyStatements.contains rest

/-- Whether a line opens a handler between words that does nothing. -/
def inKeywords (l : SourceLine) (following : List SourceLine) : Bool :=
  (keywordHandler.matchStart l.stripped).isSome &&
    following.head?.any fun n => (keywordEnd.matchStart n.stripped).isSome

/-- Whether a line of code opens a handler that does nothing. -/
def isEmptyHandler (style : BlockStyle) (l : SourceLine) (following : List SourceLine) : Bool :=
  match style with
  | .braces => inBraces l following
  | .indentation => inIndentation l following
  | .keywords => inKeywords l following

/-- The issues of some lines of code. -/
def issuesFrom (i : Inspection) : List SourceLine → List Issue
  | [] => []
  | l :: ls =>
    (if isEmptyHandler i.source.language.blockStyle l ls then
      [i.issueAt .exception .major "Empty catch block silently swallows errors" l Rule.emptyCatch]
    else []) ++ issuesFrom i ls

def issues (i : Inspection) : List Issue := issuesFrom i i.codeLines

end SourceGrade.EmptyCatch
