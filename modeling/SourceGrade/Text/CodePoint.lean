import SourceGrade.Text.Quoted
/-!
# Code points

A string can be written with code points that are no characters: surrogates that stand alone. A
sequence of code points keeps them; without any it is a text.
-/

namespace SourceGrade

inductive CodePoint where
  | char (c : Char)
  /-- One half of a pair without the other. -/
  | surrogate (unit : Nat)
  deriving DecidableEq, Repr

namespace CodePoint

def char? : CodePoint → Option Char
  | char c => some c
  | surrogate _ => none

end CodePoint

abbrev CodePoints := List CodePoint

namespace CodePoints

def ofText (t : Text) : CodePoints := t.map .char

instance : Coe Text CodePoints := ⟨ofText⟩

/-- The text of some code points that are all characters. -/
def toText? (t : CodePoints) : Option Text := t.mapM CodePoint.char?

theorem toText?_ofText (t : Text) : toText? (ofText t) = some t := by
  induction t with
  | nil => rfl
  | cons c t ih => simp_all [ofText, toText?, CodePoint.char?]

/-- The text that is encoded for some code points. A surrogate has no encoding; a question mark takes
its place. -/
def encodable (t : CodePoints) : Text := t.map fun p => p.char?.getD '?'

@[simp]
theorem encodable_ofText (t : Text) : (ofText t).encodable = t := by
  induction t with
  | nil => rfl
  | cons c t ih => exact congrArg (c :: ·) ih

@[simp]
theorem encodable_append (s t : CodePoints) : (s ++ t).encodable = s.encodable ++ t.encodable :=
  List.map_append

/-- The first block of 2048 characters from U+40000 on that has no character of a sequence. The 320
blocks up to U+DFFFF have no assigned characters. -/
def spareBlock (t : CodePoints) : Nat :=
  let isSpare (block : Nat) := t.all fun
    | .char c => c.toNat / 0x800 != block
    | .surrogate _ => true
  ((List.range 320).map (0x80 + ·)).find? isSpare |>.getD 0x80

/-- The text that is analyzed for some code points. To an analysis a surrogate is no letter, digit,
blank or mark, only different from everything else, and so is an unassigned character that the text
does not have. Such a character stands for each surrogate. -/
def legible (t : CodePoints) : Text :=
  let block := t.spareBlock
  t.map fun
    | .char c => c
    | .surrogate unit => Char.ofNat (block * 0x800 + unit % 0x800)

@[simp]
theorem legible_ofText (t : Text) : (ofText t).legible = t := by
  rw [legible, ofText, List.map_map]
  exact List.map_id t

/-- The text that shows some code points, with a mark in the place of what is no character. -/
def visible (t : CodePoints) : Text := t.map fun p => p.char?.getD (Char.ofNat 0xFFFD)

/-- A code point between quotes of one kind. -/
def quotePoint (quote : Char) : CodePoint → Text
  | .char c => Text.quoteChar quote c
  | .surrogate unit => "\\u" ++ Text.hexPadded 4 unit

/-- Some code points in quotes. -/
def quoted (t : CodePoints) : Text :=
  let quote := Text.quoteFor (t.filterMap CodePoint.char?)
  quote :: (t.flatMap (quotePoint quote) ++ [quote])

end CodePoints

end SourceGrade
