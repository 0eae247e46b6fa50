import SourceGrade.Number.Binary
import SourceGrade.Text.Letter
import SourceGrade.Text.Basic
/-!
# Numbers read from text

Whole numbers and decimal fractions as people write them: with blanks around them, a sign, digits of
any script, and single underscores between digits. Fractions may have an exponent, and the names of
infinity and of no number are read in any case.
-/

namespace SourceGrade.Reading

/-- A character in the writing of numbers: digits and blanks of other scripts become the plain
ones. -/
def plainChar (c : Char) : Char :=
  if c.val < 127 then c
  else if Text.isBlank c then ' '
  else
    match Text.digitValue? c with
    | some d => Char.ofNat (48 + d)
    | none => '?'

def isPlainBlank (c : Char) : Bool :=
  let n := c.val.toNat
  (9 ≤ n && n ≤ 13) || n == 32

/-- A text in plain characters without the blanks around it. -/
def plain (t : Text) : Text :=
  (((t.map plainChar).dropWhile isPlainBlank).reverse.dropWhile isPlainBlank).reverse

/-- Drops the underscores between digits; any other underscore is refused. -/
def dropUnderscores? : (afterDigit : Bool) → Text → Option Text
  | _, [] => some []
  | afterDigit, '_' :: r =>
    if afterDigit && r.head?.any Text.isAsciiDigit then dropUnderscores? false r else none
  | _, c :: r => (dropUnderscores? (Text.isAsciiDigit c) r).map (c :: ·)

/-- The value of a text of plain digits. -/
def digitsValue (t : Text) : Nat := t.foldl (fun n c => n * 10 + (c.val.toNat - 48)) 0

/-- The sign before a number, and what follows it. -/
def splitSign : Text → Bool × Text
  | '-' :: r => (true, r)
  | '+' :: r => (false, r)
  | t => (false, t)

/-- The whole number that a text writes. -/
def int? (t : Text) : Option Int := do
  let (negative, digits) := splitSign (plain t)
  let digits ← dropUnderscores? false digits
  if digits.isEmpty || !digits.all Text.isAsciiDigit then none
  else
    let n : Int := digitsValue digits
    some (if negative then -n else n)

/-- The digits of a whole number that is read at most. -/
def maxDigits : Nat := 4300

/-- The number of digits at the beginning of a text in the writing of a whole number, when they are
too many to be read. -/
def tooManyDigits? (t : Text) : Option Nat := do
  let (_, body) := splitSign (plain t)
  let written := body.takeWhile fun c => Text.isAsciiDigit c || c == '_'
  let digits ← dropUnderscores? false written
  if maxDigits < digits.length then some digits.length else none

/-- The refusal of a number with too many digits. -/
def tooManyDigitsMessage (count : Nat) : Text :=
  "Exceeds the limit (" ++ Text.ofNat maxDigits ++ " digits) for integer string conversion: " ++
    "value has " ++ Text.ofNat count ++
    " digits; use sys.set_int_max_str_digits() to increase the limit"

/-- A text of ASCII letters in lower case. -/
def asciiLower (t : Text) : Text :=
  t.map fun c => if 'A' ≤ c ∧ c ≤ 'Z' then Char.ofNat (c.val.toNat + 32) else c

/-- The double nearest to `n · 10 ^ e`. Powers beyond all doubles are cut off before they are
computed. -/
def scaleTen (n : Nat) (e : Int) : Float :=
  if n = 0 then 0
  else if e > 400 then Binary.nearest (twoTo 1100) 1
  else if e < -(400 + (n.log2 : Int)) then 0
  else Binary.nearest (n * tenTo e) (tenTo (-e))

/-- The exponent at the end of a decimal fraction; nothing stands for zero. -/
def exponent? : Text → Option Int
  | [] => some 0
  | c :: r =>
    if c = 'e' ∨ c = 'E' then
      let (negative, digits) := splitSign r
      if digits.isEmpty || !digits.all Text.isAsciiDigit then none
      else
        let n : Int := digitsValue digits
        some (if negative then -n else n)
    else none

/-- The whole number that an unsigned decimal fraction writes without its point and exponent, with
the power of ten of its last digit. -/
def decimal? (t : Text) : Option (Nat × Int) := do
  let whole := t.takeWhile Text.isAsciiDigit
  let rest := t.dropWhile Text.isAsciiDigit
  let (places, tail) :=
    match rest with
    | '.' :: r => (r.takeWhile Text.isAsciiDigit, r.dropWhile Text.isAsciiDigit)
    | r => ([], r)
  if whole.isEmpty && places.isEmpty then none
  else
    let e ← exponent? tail
    some (digitsValue (whole ++ places), e - places.length)

/-- The double that an unsigned decimal fraction writes. -/
def unsigned? (t : Text) : Option Float := (decimal? t).map fun (n, e) => scaleTen n e

/-- The double that a text writes. -/
def float? (t : Text) : Option Float := do
  let t ← dropUnderscores? false (plain t)
  let (negative, body) := splitSign t
  let x ←
    if asciiLower body = ("inf" : Text) ∨ asciiLower body = ("infinity" : Text) then
      some (Binary.nearest (twoTo 1100) 1)
    else if asciiLower body = ("nan" : Text) then some (0 / 0)
    else unsigned? body
  some (if negative then -x else x)

end SourceGrade.Reading
