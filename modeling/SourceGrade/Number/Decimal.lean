import SourceGrade.Number.Binary
import SourceGrade.Text.Basic
/-!
# Decimal writing of doubles

Two ways to write a double: with a fixed number of places, rounded from the exact value with halves
going to the even digit, and with the fewest digits that read back as the same double.
-/

namespace SourceGrade.Decimal

/-- The names of what is not a finite number. -/
def nonFinite (x : Float) : Text :=
  if x.isNaN then "nan" else if x < 0 then "-inf" else "inf"

/-- The digits of a whole number with a point before the last `places` of them. -/
def withPoint (n places : Nat) : Text :=
  if places = 0 then Text.ofNat n
  else
    let digits := Text.ofNat (n % tenTo places)
    Text.ofNat (n / tenTo places) ++ "." ++
      (List.replicate (places - digits.length) '0' ++ digits)

/-- A double with a fixed number of places. -/
def fixed (places : Nat) (x : Float) : Text :=
  match Binary.ofFloat? x with
  | none => nonFinite x
  | some b => (if b.negative then "-" else "") ++ withPoint (b.scaledRound places) places

/-- The grid points `d` and `d + 1` around `value` on the grid of `10 ^ k`, the nearer one first; of
two that are equally near, the even one. Here `value = n / m`. -/
def gridNeighbours (n m : Nat) (k : Int) : List Nat :=
  let n' := n * tenTo (-k)
  let m' := m * tenTo k
  let d := n' / m'
  let r := n' % m'
  if 2 * r < m' ∨ (2 * r = m' ∧ d % 2 = 0) then [d, d + 1] else [d + 1, d]

/-- Whether `d · 10 ^ k` lies between two quotients of the same denominator `m`; the ends belong to
the interval when `closed`. -/
def inInterval (low high m : Nat) (closed : Bool) (k : Int) (d : Nat) : Bool :=
  let v := d * tenTo k * m
  let scale := tenTo (-k)
  if closed then low * scale ≤ v && v ≤ high * scale else low * scale < v && v < high * scale

/-- The position after the first digit: `10 ^ (k - 1) ≤ n / m < 10 ^ k`, for a positive quotient.
The search starts at an estimate from the binary exponent and moves at most `fuel` steps. -/
def decimalPoint (n m : Nat) : Int :=
  let guess := Binary.floorLog2 n m * 30103 / 100000
  go 3 (guess - 1)
where
  go : Nat → Int → Int
    | 0, k => k
    | fuel + 1, k =>
      if n * tenTo (-k) < m * tenTo k then k else go fuel (k + 1)

/-- The fewest digits of a positive value that read back as the same double, as a whole number, with
the power of ten of its last digit. -/
def shortestDigits (mantissa : Nat) (exponent : Int) : Nat × Int :=
  -- four quarters of the last binary place, so that the ends of the interval are whole
  let scale := twoTo exponent
  let m := 4 * twoTo (-exponent)
  let n := 4 * mantissa * scale
  let high := (4 * mantissa + 2) * scale
  let low := (4 * mantissa - (if mantissa = twoTo 52 ∧ -1074 < exponent then 1 else 2)) * scale
  let point := decimalPoint n m
  let closed := mantissa % 2 == 0
  go n m low high point closed 17 1
where
  go (n m low high : Nat) (point : Int) (closed : Bool) : (fuel digits : Nat) → Nat × Int
    | 0, digits => ((gridNeighbours n m (point - digits)).headD 0, point - digits)
    | fuel + 1, digits =>
      let k := point - digits
      match (gridNeighbours n m k).find? (inInterval low high m closed k) with
      | some d => (d, k)
      | none => go n m low high point closed fuel (digits + 1)

/-- Drops the zeros at the end of a text of digits. -/
def dropFinalZeros (t : Text) : Text := (t.reverse.dropWhile (· == '0')).reverse

/-- Digits with a decimal point after the first `point` of them, filled with zeros. There is always
a digit on both sides of the point. -/
def positional (digits : Text) (point : Int) : Text :=
  if point ≤ 0 then "0." ++ (List.replicate (-point).toNat '0' ++ digits)
  else
    let whole := digits.take point.toNat
    let rest := digits.drop point.toNat
    whole ++ List.replicate (point.toNat - whole.length) '0' ++ "." ++
      (if rest.isEmpty then ("0" : Text) else rest)

/-- Digits with an exponent of at least two digits. -/
def scientific (digits : Text) (point : Int) : Text :=
  let e := point - 1
  let exponent := Text.ofNat e.natAbs
  let padded := List.replicate (2 - exponent.length) '0' ++ exponent
  digits.take 1 ++ (if digits.length ≤ 1 then [] else '.' :: digits.drop 1) ++
    (if e < 0 then ("e-" : Text) else "e+") ++ padded

/-- A double in the fewest digits that read back, written positionally from `0.0001` up to below
`10 ^ 16` and with an exponent outside. -/
def shortest (x : Float) : Text :=
  match Binary.ofFloat? x with
  | none => nonFinite x
  | some b =>
    let sign : Text := if b.negative then "-" else ""
    if b.mantissa = 0 then sign ++ "0.0"
    else
      let (d, k) := shortestDigits b.mantissa b.exponent
      let all := Text.ofNat d
      let point := k + all.length
      let digits := dropFinalZeros all
      sign ++ (if -4 < point ∧ point ≤ 16 then positional digits point else scientific digits point)

end SourceGrade.Decimal
