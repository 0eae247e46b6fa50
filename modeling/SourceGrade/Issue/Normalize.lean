import SourceGrade.Text.Case
import SourceGrade.Text.Letter
/-!
# Normalized descriptions

Descriptions of issues of one pattern differ in names, numbers and lines. Normalizing a description
masks what stands in quotes, drops references to lines, masks numbers and reduces blanks, so that
issues of one pattern get one description.
-/

namespace SourceGrade

namespace Normalize

def isQuote (c : Char) : Bool := c == '\'' || c == '"' || c == '\x60'

/-- Writes a star for each text between two quotes of one kind. Inside a quoted text, `open?` is the
quote that ends it. A quote without a partner stays. -/
def maskQuoted (open? : Option Char) : Text → Text
  | [] => []
  | c :: r =>
    match open? with
    | some q => if c = q then maskQuoted none r else maskQuoted (some q) r
    | none =>
      if isQuote c && r.contains c then '*' :: maskQuoted (some c) r else c :: maskQuoted none r

/-- Words that refer to a line, with the number after them. -/
def referenceWords : List Text := ["line", "at", "on"]

/-- The length of the reference to a line that begins a text: a word, blanks, and a number that is a
whole word. -/
def referenceLength? (t : Text) : Option Nat :=
  referenceWords.findSome? fun word => do
    let r ← Text.dropPrefix? word t
    let blanks := r.takeWhile Text.isBlank
    let r := r.dropWhile Text.isBlank
    let digits := r.takeWhile Text.isDigit
    let r := r.dropWhile Text.isDigit
    if blanks.isEmpty || digits.isEmpty || r.head?.any Text.isWordChar then none
    else some (word.length + blanks.length + digits.length)

/-- Drops references to lines that do not begin inside a word. The first `skip` characters belong to
a reference, and `inWord` tells whether a word character precedes the text. -/
def dropReferences (inWord : Bool) : (skip : Nat) → Text → Text
  | _, [] => []
  | skip + 1, c :: r => dropReferences (Text.isWordChar c) skip r
  | 0, c :: r =>
    match if inWord then none else referenceLength? (c :: r) with
    | some length => dropReferences (Text.isWordChar c) (length - 1) r
    | none => c :: dropReferences (Text.isWordChar c) 0 r

/-- What part of a number precedes a character. -/
inductive NumberPart where
  | outside | whole | fraction
  deriving DecidableEq, Repr

/-- Writes a number sign for each number. -/
def maskNumbers (part : NumberPart) : Text → Text
  | [] => []
  | c :: r =>
    if Text.isDigit c then
      match part with
      | .outside => '#' :: maskNumbers .whole r
      | p => maskNumbers p r
    else if part = .whole ∧ c = '.' ∧ r.head?.any Text.isDigit then maskNumbers .fraction r
    else c :: maskNumbers .outside r

/-- Single spaces between the words, and none around them. -/
def reduceBlanks (t : Text) : Text := Text.join " " (Text.words t)

end Normalize

/-- The description that issues of one pattern share. -/
def normalizeDescription (t : Text) : Text :=
  Normalize.reduceBlanks
    (Normalize.maskNumbers .outside
      (Normalize.dropReferences false 0 (Normalize.maskQuoted none (Text.lower t))))

end SourceGrade
