/-!
# Texts

A text is the list of its code points. This module holds the operations on texts that need no
table of letters: blanks, splitting and joining, prefixes, tab columns and the decimal writing of
whole numbers.
-/

namespace SourceGrade

/-- A text, as the list of its code points. -/
abbrev Text := List Char

instance : Coe String Text := ⟨String.toList⟩

namespace Text

/-- Blanks: the control separators, the spaces of every width and the line and paragraph
separators. -/
def isBlank (c : Char) : Bool :=
  let n := c.val.toNat
  (9 ≤ n && n ≤ 13) || (28 ≤ n && n ≤ 32) || n == 0x85 || n == 0xA0 || n == 0x1680 ||
    (0x2000 ≤ n && n ≤ 0x200A) || n == 0x2028 || n == 0x2029 || n == 0x202F || n == 0x205F ||
    n == 0x3000

def stripLeft (t : Text) : Text := t.dropWhile isBlank

/-- Drops the blanks at the end of a text. -/
def stripRight : Text → Text
  | [] => []
  | c :: r =>
    match stripRight r with
    | [] => if isBlank c then [] else [c]
    | d :: s => c :: d :: s

def strip (t : Text) : Text := stripRight (stripLeft t)

/-- Whether a text holds nothing but blanks. -/
def allBlank (t : Text) : Bool := t.all isBlank

/-- The pieces of a text between the occurrences of a separator; there is always at least one. -/
def splitOn (sep : Char) : Text → List Text
  | [] => [[]]
  | c :: r =>
    if c = sep then [] :: splitOn sep r
    else
      match splitOn sep r with
      | [] => [[c]]
      | p :: ps => (c :: p) :: ps

/-- The maximal runs of characters that are not blank. -/
def words (t : Text) : List Text := go t []
where
  go : Text → Text → List Text
    | [], [] => []
    | [], w => [w.reverse]
    | c :: r, w =>
      if isBlank c then
        match w with
        | [] => go r []
        | _ :: _ => w.reverse :: go r []
      else go r (c :: w)

/-- Joins texts with a separator between neighbours. -/
def join (sep : Text) : List Text → Text
  | [] => []
  | [t] => t
  | t :: u :: r => t ++ sep ++ join sep (u :: r)

/-- What follows a given beginning, when the text begins so. -/
def dropPrefix? : (start t : Text) → Option Text
  | [], t => some t
  | _ :: _, [] => none
  | p :: ps, c :: r => if p = c then dropPrefix? ps r else none

def startsWith (start t : Text) : Bool := (dropPrefix? start t).isSome

def endsWith (ending t : Text) : Bool := startsWith ending.reverse t.reverse

/-- Whether `part` occurs somewhere in a text. -/
def occurs (part : Text) : Text → Bool
  | [] => startsWith part []
  | c :: r => startsWith part (c :: r) || occurs part r

/-- Replaces the occurrences of a part, from the left and without overlap. The empty part has no
occurrence here. -/
def replace (part new : Text) (t : Text) : Text :=
  match part with
  | [] => t
  | p :: ps => go p ps t 0
where
  go (p : Char) (ps : Text) : Text → Nat → Text
    | [], _ => []
    | _ :: r, n + 1 => go p ps r n
    | c :: r, 0 =>
      if startsWith (p :: ps) (c :: r) then new ++ go p ps r ps.length else c :: go p ps r 0

/-- Tabs widened to the next column that is a multiple of `width`; a line end restarts the
columns. -/
def expandTabs (width : Nat) (t : Text) : Text := go t 0
where
  go : Text → Nat → Text
    | [], _ => []
    | c :: r, column =>
      if c = '\t' then
        let pad := width - column % width
        List.replicate pad ' ' ++ go r (column + pad)
      else if c = '\n' ∨ c = '\r' then c :: go r 0
      else c :: go r (column + 1)

/-- The decimal digits of a whole number. -/
def ofNat (n : Nat) : Text := Nat.toDigits 10 n

/-- The value of a hexadecimal digit. -/
def hexDigit? (c : Char) : Option Nat :=
  if '0' ≤ c ∧ c ≤ '9' then some (c.val.toNat - 48)
  else if 'a' ≤ c ∧ c ≤ 'f' then some (c.val.toNat - 87)
  else if 'A' ≤ c ∧ c ≤ 'F' then some (c.val.toNat - 55)
  else none

def ofInt : Int → Text
  | .ofNat n => ofNat n
  | .negSucc n => '-' :: ofNat (n + 1)

/-- Line ends of every kind written as a line feed. -/
def unifyLineEnds : Text → Text
  | [] => []
  | '\r' :: '\n' :: r => '\n' :: unifyLineEnds r
  | '\r' :: r => '\n' :: unifyLineEnds r
  | c :: r => c :: unifyLineEnds r

/-- Whether a text comes before another or is the same, in the order of code points. -/
def le : Text → Text → Bool
  | [], _ => true
  | _ :: _, [] => false
  | c :: r, d :: s => c.val < d.val || (c == d && le r s)

/-- A text of at least `width` characters, filled with spaces on the left. -/
def padLeft (width : Nat) (t : Text) : Text := List.replicate (width - t.length) ' ' ++ t

end Text

end SourceGrade
