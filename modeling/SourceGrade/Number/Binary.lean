import SourceGrade.Number.Power
/-!
# Binary floating point

A finite double is a sign with a whole number times a power of two. This module takes doubles apart
and finds the double nearest to a quotient of whole numbers.
-/

namespace SourceGrade

/-- The value `mantissa · 2 ^ exponent`, below zero when `negative`. -/
structure Binary where
  negative : Bool
  mantissa : Nat
  exponent : Int
  deriving DecidableEq, Repr

namespace Binary

/-- The parts of a finite double; none of an infinity or of no number. -/
def ofFloat? (x : Float) : Option Binary :=
  let bits : Nat := x.toBits.toNat
  let negative := bits / twoTo 63 == 1
  let field : Nat := bits / twoTo 52 % twoTo 11
  let fraction : Nat := bits % twoTo 52
  if field = 2047 then none
  else if field = 0 then some ⟨negative, fraction, -1074⟩
  else some ⟨negative, fraction + twoTo 52, (field : Int) - 1075⟩

/-- The quotient `n / d` rounded to a whole number, a half to the even neighbour. -/
def roundQuotient (n d : Nat) : Nat :=
  let q := n / d
  let r := n % d
  if d < 2 * r ∨ (2 * r = d ∧ q % 2 = 1) then q + 1 else q

/-- The exponent `k` with `2 ^ k ≤ n / d < 2 ^ (k + 1)`, for a positive quotient. -/
def floorLog2 (n d : Nat) : Int :=
  let k : Int := (n.log2 : Int) - d.log2
  if d * twoTo k ≤ n * twoTo (-k) then k else k - 1

/-- The bits of the double nearest to `n / d`, a half going to the even neighbour. A quotient beyond
all doubles gives infinity. -/
def nearestBits (n d : Nat) : Nat :=
  if n = 0 then 0
  else
    let e := max (floorLog2 n d - 52) (-1074)
    let q := roundQuotient (n * twoTo (-e)) (d * twoTo e)
    min ((e + 1074).toNat * twoTo 52 + q) (2047 * twoTo 52)

/-- The double nearest to the quotient of a whole number and a positive one. -/
def nearest (n : Int) (d : Nat) : Float :=
  let sign := if n < 0 then twoTo 63 else 0
  Float.ofBits (UInt64.ofNat (sign + nearestBits n.natAbs d))

/-- The whole number nearest to the value times `10 ^ places`, without the sign. -/
def scaledRound (b : Binary) (places : Nat) : Nat :=
  roundQuotient (b.mantissa * tenTo places * twoTo b.exponent) (twoTo (-b.exponent))

/-- How the value compares with a whole number. -/
def compareInt (b : Binary) (n : Int) : Ordering :=
  let v : Int := (if b.negative then -(b.mantissa : Int) else b.mantissa) * twoTo b.exponent
  compare v (n * twoTo (-b.exponent))

/-- How a double compares with a whole number; what is no number does not. -/
def compareFloat? (x : Float) (n : Int) : Option Ordering :=
  match ofFloat? x with
  | some b => some (b.compareInt n)
  | none => if x.isNaN then none else some (if x < 0 then .lt else .gt)

/-- How two doubles compare; what is no number compares with nothing. -/
def orderFloat? (x y : Float) : Option Ordering :=
  if x < y then some .lt else if y < x then some .gt else if x == y then some .eq else none

end Binary

end SourceGrade
