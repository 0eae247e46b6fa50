import SourceGrade.Display.EmojiNames
import SourceGrade.Pattern.Build
import SourceGrade.Text.Case
/-!
# Emoji in texts

A name between colons stands for an emoji. The name may end with a skin tone, and after it with the
presentation that is asked for. Names are compared in lower case, and an unknown name stays as it is
written.
-/

namespace SourceGrade.Emoji

open Pattern

/-- What stands before an ending, when a text has it. -/
def dropEnding? (ending t : Text) : Option Text :=
  (Text.dropPrefix? ending.reverse t.reverse).map List.reverse

/-- The code points of a name among names and code points in turn. -/
def codesAmong? (name : Text) : List Text → Option Text
  | n :: codes :: r => if n = name then some codes else codesAmong? name r
  | _ => none

/-- The code points of a name. -/
def codes? (name : Text) : Option Text :=
  nameLines.findSome? fun line => codesAmong? name (Text.splitOn ' ' line.toList)

/-- The character of a code point in hexadecimal digits. -/
def charOf (digits : Text) : Char :=
  Char.ofNat ((digits.filterMap Text.hexDigit?).foldl (fun n d => n * 16 + d) 0)

def charsOf (codes : Text) : Text := (Text.splitOn '-' codes).map charOf

/-- Whether an emoji can be given a skin tone. -/
def hasTones (codes : Text) : Bool := codes.getLast? == some '+'

/-- The endings of names for skin tones. -/
def skinTones : List (Text × Char) :=
  [("_light_skin_tone", Char.ofNat 0x1F3FB), ("_medium-light_skin_tone", Char.ofNat 0x1F3FC),
    ("_medium_skin_tone", Char.ofNat 0x1F3FD), ("_medium-dark_skin_tone", Char.ofNat 0x1F3FE),
    ("_dark_skin_tone", Char.ofNat 0x1F3FF)]

/-- The mark that asks for a coloured presentation. -/
def colouredMark : Char := Char.ofNat 0xFE0F

/-- The mark that asks for a plain presentation. -/
def plainMark : Char := Char.ofNat 0xFE0E

/-- An emoji with a skin tone, which stands after the first character instead of a mark. -/
def withTone (tone : Char) : Text → Text
  | [] => [tone]
  | c :: r => c :: tone :: (if r.head? = some colouredMark then r.tail else r)

/-- The emoji of a name with a skin tone. -/
def toned? (name : Text) : Option Text :=
  skinTones.findSome? fun (ending, tone) => do
    let codes ← codes? (← dropEnding? ending name)
    if hasTones codes then some (withTone tone (charsOf codes)) else none

/-- The emoji of a name in lower case. -/
def find? (name : Text) : Option Text :=
  match codes? name with
  | some codes => some (charsOf codes)
  | none => toned? name

/-- The endings of names for presentations, with their marks. -/
def presentations : List (Text × Char) := [("-emoji", colouredMark), ("-text", plainMark)]

/-- A name without the ending for a presentation, and the mark of the presentation. -/
def splitPresentation (name : Text) : Text × Text :=
  (presentations.findSome? fun (ending, mark) =>
    (dropEnding? ending name).map (·, [mark])).getD (name, [])

/-- A name between colons. -/
def code : Pattern :=
  ":" ++ capture .name (many (one fun c => !Text.isBlank c && c != ':')) ++ ":"

/-- What a name between colons shows. -/
def shown (m : Match) : Text :=
  let (name, mark) := splitPresentation (m.textOf .name)
  match find? (Text.lower name) with
  | some emoji => emoji ++ mark
  | none => m.text

/-- A text with emoji in the places of their names. -/
def replaceCodes (t : Text) : Text := code.replaceAll shown t

end SourceGrade.Emoji
