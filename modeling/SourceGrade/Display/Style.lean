import SourceGrade.Display.ColourNames
import SourceGrade.Number.Reading
import SourceGrade.Text.Case
/-!
# Styles

A style is described by words: attributes, which may be abbreviated or negated, a colour, a colour
of the background, and a link. Descriptions of the same style have the same normal form.
-/

namespace SourceGrade

/-- Why words describe no style. -/
inductive StyleFault where
  | unknownWord
  /-- A part of a colour is no number. -/
  | unreadableNumber
  deriving DecidableEq, Repr

structure Style where
  /-- Attributes that are asked for or refused, the last word first. -/
  attributes : List (Text × Bool) := []
  colour? : Option Text := none
  background? : Option Text := none
  link? : Option Text := none
  deriving DecidableEq, Repr

namespace Style

/-- The attributes in the order of a normal form. -/
def attributeNames : List Text :=
  ["bold", "dim", "italic", "underline", "blink", "blink2", "reverse", "conceal", "strike",
    "underline2", "frame", "encircle", "overline"]

def abbreviations : List (Text × Text) :=
  [("d", "dim"), ("b", "bold"), ("i", "italic"), ("u", "underline"), ("r", "reverse"),
    ("c", "conceal"), ("s", "strike"), ("uu", "underline2"), ("o", "overline")]

/-- The attribute that a word names. -/
def attribute? (word : Text) : Option Text :=
  if attributeNames.contains word then some word else abbreviations.lookup word

def isColourName (t : Text) : Bool :=
  t = ("default" : Text) || colourNameLines.any fun line => (Text.words line.toList).contains t

/-- What stands in brackets after a word, up to the end of a text. -/
def argument? (word t : Text) : Option Text :=
  match (Text.dropPrefix? (word ++ ['(']) t).map List.reverse with
  | some (')' :: inside) => some inside.reverse
  | _ => none

/-- Whether a text is a number sign with six hexadecimal digits in lower case. -/
def isHexColour : Text → Bool
  | '#' :: digits =>
    digits.length = 6 && digits.all fun c => Text.isAsciiDigit c || ('a' ≤ c && c ≤ 'f')
  | _ => false

/-- The largest number of a colour, and the largest part of one. -/
def maxColour : Int := 255

/-- A number of one to three digits that a colour has. -/
def isColourNumber (digits : Text) : Bool :=
  !digits.isEmpty && digits.length ≤ 3 && digits.all Text.isAsciiDigit &&
    (Reading.int? digits).any (· ≤ maxColour)

/-- The number of a part of a colour. -/
def part? (digits : Text) : Option Int :=
  if (Reading.tooManyDigits? digits).isSome then none else Reading.int? digits

/-- Checks the parts of a colour, of which there have to be three. -/
def checkParts (inside : Text) : Except StyleFault Unit :=
  if inside.isEmpty || !inside.all fun c => Text.isDigit c || c == ',' then .error .unknownWord
  else
    let parts := Text.splitOn ',' inside
    if parts.length ≠ 3 then .error .unknownWord
    else
      match parts.mapM part? with
      | none => .error .unreadableNumber
      | some numbers => if numbers.all (· ≤ maxColour) then .ok () else .error .unknownWord

/-- The colour that a word names, in lower case. -/
def colour (word : Text) : Except StyleFault Text := do
  let name := Text.strip (Text.lower word)
  if isColourName name || isHexColour name || (argument? "color" name).any isColourNumber then
    return name
  match argument? "rgb" name with
  | some inside =>
    checkParts inside
    return name
  | none => .error .unknownWord

/-- A style with one more word, which stands for itself. -/
def addWord (s : Style) (word : Text) : Except StyleFault Style :=
  match attribute? word with
  | some name => .ok { s with attributes := (name, true) :: s.attributes }
  | none => (colour word).map fun name => { s with colour? := some name }

/-- The words that go with the word after them. -/
def leadingWords : List Text := ["on", "not", "link"]

/-- A style with one of the leading words and the word after it. -/
def addPair (s : Style) (leading word : Text) : Except StyleFault Style :=
  if leading = ("on" : Text) then (colour word).map fun name => { s with background? := some name }
  else if leading = ("not" : Text) then
    match attribute? word with
    | some name => .ok { s with attributes := (name, false) :: s.attributes }
    | none => .error .unknownWord
  else .ok { s with link? := some word }

/-- A style with more words. -/
def addWords (s : Style) : List Text → Except StyleFault Style
  | [] => .ok s
  | [word] =>
    if leadingWords.contains (Text.lower word) then .error .unknownWord
    else addWord s (Text.lower word)
  | word :: next :: rest =>
    if leadingWords.contains (Text.lower word) then do
      addWords (← addPair s (Text.lower word) next) rest
    else do
      addWords (← addWord s (Text.lower word)) (next :: rest)

/-- The description of a style that has nothing. -/
def nothing : Text := "none"

/-- The style that a text describes. -/
def ofText (t : Text) : Except StyleFault Style :=
  if Text.strip t = nothing then .ok {} else addWords {} (Text.words t)

/-- The description of a style in its normal form. -/
def text (s : Style) : Text :=
  let attributes := attributeNames.filterMap fun name =>
    (s.attributes.lookup name).map fun wanted => if wanted then name else "not " ++ name
  let parts := attributes ++ s.colour?.toList ++ (s.background?.map (("on " : Text) ++ ·)).toList ++
    (s.link?.map (("link " : Text) ++ ·)).toList
  if parts.isEmpty then nothing else Text.join " " parts

/-- The normal form of a description. What describes no style is compared in lower case; a colour
with an unreadable number has no normal form. -/
def normalForm? (t : Text) : Option Text :=
  match ofText t with
  | .ok s => some s.text
  | .error .unknownWord => some (Text.lower (Text.strip t))
  | .error .unreadableNumber => none

end Style

end SourceGrade
