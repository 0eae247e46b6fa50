import SourceGrade.Display.Emoji
import SourceGrade.Display.Handler
import SourceGrade.Display.Style
import SourceGrade.Pattern.Build
import SourceGrade.Text.Case
/-!
# Markup

Texts for a terminal carry styles as tags in square brackets. A backslash before a tag makes it
plain text; two make one backslash before a tag that counts. Between tags, names of emoji stand for
emoji.
-/

namespace SourceGrade.Markup

open Pattern

/-- A tag, with the backslashes before it in one slot and what stands in the brackets in the
other. -/
def tag : Pattern :=
  capture .keyword (many '\\') ++ "[" ++
    capture .name ((between 'a' 'z' ||| anyOf "#/@") ++ many (noneOf "[]")) ++ "]"

/-- Makes one final backslash two. -/
def doubleFinalBackslash (t : Text) : Text :=
  if Text.endsWith "\\" t && !Text.endsWith "\\\\" t then t ++ ['\\'] else t

/-- A text whose tags are shown as they are. -/
def escape (t : Text) : Text :=
  doubleFinalBackslash (tag.replaceAll (fun m => m.textOf .keyword ++ '\\' :: m.text) t)

/-- A part of a text with markup. -/
inductive Piece where
  | text (t : Text)
  | opening (name parameters : Text)
  | closing (name : Text)
  deriving DecidableEq, Repr

/-- What a tag stands for. The parameters of a closing tag do not matter. -/
def pieceOfTag (inside : Text) : Piece :=
  match inside.takeWhile (· != '=') with
  | '/' :: name => .closing (Text.strip name)
  | name => .opening name ((inside.dropWhile (· != '=')).drop 1)

/-- The parts that a match stands for. -/
def piecesOf (m : Match) : List Piece :=
  let count := (m.textOf .keyword).length
  (if 2 ≤ count then [.text (List.replicate (count / 2) '\\')] else []) ++
    (if count % 2 = 1 then [.text (m.text.drop count)] else [pieceOfTag (m.textOf .name)])

/-- The parts of a text, `position` characters of which are before the text that is left. -/
def piecesFrom (position : Nat) (t : Text) : List Match → List Piece
  | [] => if t.isEmpty then [] else [.text t]
  | m :: ms =>
    (if m.start = position then [] else [.text (t.take (m.start - position))]) ++
      (piecesOf m ++ piecesFrom m.stop (t.drop (m.stop - position)) ms)

def pieces (t : Text) : List Piece := piecesFrom 0 t (tag.all t)

/-- An open tag: the normal form of its style, and its parameters. -/
structure OpenTag where
  style : Text
  parameters : Text
  deriving DecidableEq, Repr

namespace OpenTag

/-- Whether a tag can be closed: a handler in it has to be sound. -/
def isClosable (o : OpenTag) : Bool :=
  o.style.head? ≠ some '@' || o.parameters.isEmpty || Handler.isSound o.parameters

end OpenTag

/-- Takes the latest of the open tags of a style off the list. -/
def closeStyle? (style : Text) : List OpenTag → Option (List OpenTag)
  | [] => none
  | o :: os =>
    if o.style = style then if o.isClosable then some os else none
    else (closeStyle? style os).map (o :: ·)

/-- Takes the open tag that a closing tag names off the list. An empty name stands for the latest of
all. -/
def close? (name : Text) (opened : List OpenTag) : Option (List OpenTag) :=
  if name.isEmpty then
    match opened with
    | [] => none
    | o :: os => if o.isClosable then some os else none
  else (Style.normalForm? name).bind (closeStyle? · opened)

/-- Opens a tag. Its style needs a normal form, and one together with the parameters. -/
def openTag? (name parameters : Text) : Option OpenTag := do
  let style ← Style.normalForm? name
  let _ ← Style.normalForm? (style ++ ' ' :: parameters)
  return ⟨style, parameters⟩

/-- What the parts show. A closing tag that closes nothing is an error, and so is a style without a
normal form. -/
def shown? (opened : List OpenTag) : List Piece → Option Text
  | [] => some []
  | .text t :: ps => (shown? opened ps).map (Emoji.replaceCodes (Text.replace "\\[" "[" t) ++ ·)
  | .opening name parameters :: ps =>
    (openTag? name parameters).bind fun o => shown? (o :: opened) ps
  | .closing name :: ps => (close? name opened).bind (shown? · ps)

/-- A text without its markup. -/
def plain? (t : Text) : Option Text :=
  if t.contains '[' then shown? [] (pieces t) else some (Emoji.replaceCodes t)

end SourceGrade.Markup
