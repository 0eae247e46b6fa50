import SourceGrade.Text.Basic
import SourceGrade.Text.Printable
/-!
# Quoted texts

A text between quotes, in which the quote, the backslash and what is not printable are written as
escapes. The quotes are single ones, unless the text holds single quotes and no double ones.
-/

namespace SourceGrade.Text

/-- A number in hexadecimal digits, filled with zeros to a width. -/
def hexPadded (width n : Nat) : Text := 
  let digits := Nat.toDigits 16 n
  List.replicate (width - digits.length) '0' ++ digits

/-- The quote to put around a text. -/
def quoteFor (t : Text) : Char := if t.contains '\'' && !t.contains '"' then '"' else '\''

/-- A character between quotes of one kind. -/
def quoteChar (quote c : Char) : Text :=
  if c = quote ∨ c = '\\' then ['\\', c]
  else if c = '\t' then "\\t"
  else if c = '\n' then "\\n"
  else if c = '\r' then "\\r"
  else if isPrintable c then [c]
  else
    let n := c.val.toNat
    if n < 0x100 then "\\x" ++ hexPadded 2 n
    else if n < 0x10000 then "\\u" ++ hexPadded 4 n
    else "\\U" ++ hexPadded 8 n

/-- A text in quotes. -/
def quoted (t : Text) : Text :=
  let quote := quoteFor t
  quote :: (t.flatMap (quoteChar quote) ++ [quote])

end SourceGrade.Text
