import SourceGrade.Number.Power
import SourceGrade.Pattern.Build
import SourceGrade.Number.Reading
/-!
# Numeric literals in code

Decimal numbers with suffixes, and whole numbers in base two, eight and sixteen. A divisor that is a
literal is safe unless it is zero; a whole number too large for a double cannot be judged.
-/

namespace SourceGrade

open Pattern

/-- A numeric literal. -/
def numberLiteral : Pattern :=
  "0" ++ anyOf "xXbBoO" ++
      many1 (one fun c =>
        Text.isDigit c || ('a' ≤ c && c ≤ 'f') || ('A' ≤ c && c ≤ 'F') || c == '_') ++
      many (anyOf "uUlL") |||
    digit ++ many (one fun c => Text.isDigit c || c == '_') ++ optional ("." ++ digits1) ++
      optional (anyOf "eE" ++ optional (anyOf "-+") ++ digits1) ++ many (anyOf "fFlLuUdD")

/-- What is known about the value of a text as a number. -/
inductive LiteralValue where
  /-- No literal. -/
  | unknown
  | zero
  | nonZero
  /-- A whole number beyond all doubles. -/
  | tooLarge
  deriving DecidableEq, Repr

namespace LiteralValue

/-- Drops pairs of parentheses around a text. -/
def dropParens : (fuel : Nat) → Text → Text
  | 0, t => t
  | fuel + 1, t =>
    if Text.startsWith "(" t && Text.endsWith ")" t then dropParens fuel (t.drop 1).dropLast else t

/-- The value of a digit in bases up to sixteen; decimal digits may be of any script. -/
def digitOf? (c : Char) : Option Nat :=
  match Text.digitValue? c with
  | some d => some d
  | none =>
    if 'a' ≤ c ∧ c ≤ 'f' then some (c.val.toNat - 87)
    else if 'A' ≤ c ∧ c ≤ 'F' then some (c.val.toNat - 55)
    else none

/-- The whole number that some digits write in a base. -/
def inBase? (base : Nat) : Text → Option Nat
  | [] => none
  | t => t.foldl (fun n? c => do
      let n ← n?
      let d ← digitOf? c
      if d < base then some (n * base + d) else none) (some 0)

/-- The base that the beginning of a text names. -/
def base? : Text → Option (Nat × Text)
  | '0' :: c :: r =>
    if c = 'x' ∨ c = 'X' then some (16, r)
    else if c = 'b' ∨ c = 'B' then some (2, r)
    else if c = 'o' ∨ c = 'O' then some (8, r)
    else none
  | _ => none

/-- The least whole number that is rounded beyond all doubles. -/
def doubleLimit : Nat := twoTo 1024 - twoTo 970

def ofWhole (n : Nat) : LiteralValue :=
  if n = 0 then zero else if n < doubleLimit then nonZero else tooLarge

/-- A text without the characters of a list at its end. -/
def dropSuffix (letters : String) (t : Text) : Text :=
  (t.reverse.dropWhile letters.toList.contains).reverse

/-- What is known about a divisor as a number. -/
def ofText (divisor : Text) : LiteralValue :=
  let t := dropParens divisor.length divisor
  if (numberLiteral.matchWhole t).isNone then unknown
  else
    let t := t.filter (· != '_')
    match base? t with
    | some (base, digits) =>
      match inBase? base (dropSuffix "uUlL" digits) with
      | some n => ofWhole n
      | none => unknown
    | none =>
      match Reading.float? (dropSuffix "fFlLuUdD" t) with
      | some x => if x == 0 then zero else nonZero
      | none => unknown

end LiteralValue

end SourceGrade
