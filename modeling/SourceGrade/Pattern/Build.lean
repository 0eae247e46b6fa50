import SourceGrade.Pattern.Basic
/-!
# Building patterns

Small patterns from which the larger ones are put together with `++` (one after the other) and
`|||` (the first, or else the second). Texts and characters stand for themselves.
-/

namespace SourceGrade.Pattern

instance : Append Pattern := ⟨seq⟩

instance : OrOp Pattern := ⟨alt⟩

/-- Exactly this text. -/
def literal : Text → Pattern
  | [] => empty
  | [c] => one (· == c)
  | c :: d :: r => one (· == c) ++ literal (d :: r)

instance : Coe String Pattern := ⟨fun s => literal s.toList⟩

instance : Coe Char Pattern := ⟨fun c => one (· == c)⟩

/-- One character out of a list. -/
def anyOf (s : String) : Pattern := one s.toList.contains

/-- One character that is not in a list. -/
def noneOf (s : String) : Pattern := one fun c => !s.toList.contains c

/-- One of these texts, the first that leads to a match. -/
def oneOf : List String → Pattern
  | [] => notAhead empty
  | [s] => s
  | s :: t :: r => (s : Pattern) ||| oneOf (t :: r)

def optional (p : Pattern) : Pattern := p ||| empty

/-- At least one round, and as many as possible. -/
def many1 (p : Pattern) : Pattern := p ++ many p

/-- Any character but a line feed. -/
def inLine : Pattern := one (· != '\n')

def blank : Pattern := one Text.isBlank

def blanks : Pattern := many blank

def blanks1 : Pattern := many1 blank

def digit : Pattern := one Text.isDigit

def digits1 : Pattern := many1 digit

def wordChar : Pattern := one Text.isWordChar

/-- One character of a word or out of a list. -/
def wordCharOr (s : String) : Pattern := one fun c => Text.isWordChar c || s.toList.contains c

/-- One character from `lo` to `hi`. -/
def between (lo hi : Char) : Pattern := one fun c => lo ≤ c && c ≤ hi

def nonZeroDigit : Pattern := between '1' '9'

/-- The first character of a name, of a name with dollar signs, and of names after it. -/
def isNameStart (c : Char) : Bool := Text.isAsciiLetter c || c == '_'

def isIdentifierStart (c : Char) : Bool := isNameStart c || c == '$'

def isIdentifierChar (c : Char) : Bool := Text.isWordChar c || c == '$'

/-- A letter or underscore and what follows it of the word. -/
def plainName : Pattern := one isNameStart ++ many wordChar

/-- A name that may hold dollar signs. -/
def identifier : Pattern := one isIdentifierStart ++ many (one isIdentifierChar)

/-- A text that is a whole word. -/
def wholeWord (s : String) : Pattern := wordEdge ++ (s : Pattern) ++ wordEdge

/-- One of these texts, as a whole word. -/
def wholeWordOf (ss : List String) : Pattern := wordEdge ++ oneOf ss ++ wordEdge

/-- An opening parenthesis, with blanks before it. -/
def call : Pattern := blanks ++ '('

/-- What precedes does not belong to the set. -/
def notAfter (set : Char → Bool) : Pattern := notBehind [set]

/-- What precedes is not this text. -/
def notAfterText (s : String) : Pattern := notBehind (s.toList.reverse.map fun c d => d == c)

end SourceGrade.Pattern
