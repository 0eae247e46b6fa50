import SourceGrade.Pattern.Build
/-!
# Languages

What the analysis has to know about a programming language: its comments and strings, the tokens at
which control flow branches, the shapes of its declarations, its block structure and its
parameters.
-/

namespace SourceGrade

/-- The kinds of blocks that can enclose a line. -/
inductive BlockKind where
  | conditional | alternative | loop | switch | attempt | handler | cleanup | other
  deriving DecidableEq, Repr

namespace BlockKind

def name : BlockKind → Text
  | conditional => "if"
  | alternative => "else"
  | loop => "loop"
  | switch => "switch"
  | attempt => "try"
  | handler => "catch"
  | cleanup => "finally"
  | other => "other"

/-- Blocks that count towards the nesting depth. -/
def isControl : BlockKind → Bool
  | other => false
  | _ => true

/-- Blocks whose code runs only under a condition. -/
def isConditional : BlockKind → Bool
  | conditional | alternative | switch => true
  | _ => false

/-- Blocks that belong to the handling of errors. -/
def isErrorHandling : BlockKind → Bool
  | attempt | handler | cleanup => true
  | _ => false

end BlockKind

/-- How a language marks its blocks: with braces, by indentation after a colon, or with words up to
`end`. -/
inductive BlockStyle where
  | braces | indentation | keywords
  deriving DecidableEq, Repr

def BlockStyle.name : BlockStyle → Text
  | braces => "brace"
  | indentation => "indent"
  | keywords => "keyword"

/-- Where the name stands in a parameter without a colon. -/
inductive NamePosition where
  | first | last
  deriving DecidableEq, Repr

/-- A programming language, as far as the analysis looks at it. -/
structure Language where
  name : Text
  /-- Other tags for the language. -/
  aliases : List Text := []
  /-- The marks that begin a comment up to the end of the line, longest first. -/
  lineComments : List Text := ["//"]
  /-- The beginnings and ends of comments that may span lines, longest beginning first. -/
  blockComments : List (Text × Text) := [("/*", "*/")]
  stringDelimiters : List Char := ['"', '\'']
  /-- Delimiters of strings that may span lines. -/
  multilineDelimiters : List Char := []
  escape : Char := '\\'
  /-- Each match in the code is one more path through it. -/
  decisions : List Pattern := []
  /-- Shapes of function declarations, with the slots `name` and `parameters`. -/
  functions : List Pattern := []
  /-- Shapes of class declarations, with the slot `name`. -/
  classes : List Pattern := []
  blockStyle : BlockStyle := .braces
  blockKeywords : List (Text × BlockKind) := []
  namePosition : NamePosition := .first
  nonNullableTypes : List Text := []
  /-- A type that contains one of these may be null. -/
  nullableMarkers : List Text := []
  nullableByDefault : Bool := true
  nullLiterals : List Text := ["null"]
  /-- Names that are taken to be present and not null. -/
  safeGlobals : List Text := []
  memberOperators : List Text := ["."]
  /-- Whether declarations are documented by a text at the head of their body. -/
  docstrings : Bool := false
  /-- The mark of lines that address the compiler, when there is one. -/
  directiveMark : Text := []

end SourceGrade
