import SourceGrade.Number.Decimal
/-!
# Arithmetic of scores

Scores, ratios and weights are computed in any arithmetic with the operations below. The program
runs on doubles; the same definitions make sense for exact numbers.
-/

namespace SourceGrade

/-- Why a result is beyond the numbers that are computed with. -/
inductive Overflow where
  /-- A whole number has no double near it. -/
  | operand
  /-- The quotient of two whole numbers has no double near it. -/
  | quotient
  /-- A whole number has too many digits to be written. -/
  | digits
  deriving DecidableEq, Repr

namespace Overflow

def message : Overflow → Text
  | operand => "int too large to convert to float"
  | quotient => "integer division result too large for a float"
  | digits =>
    "Exceeds the limit (4300 digits) for integer string conversion; " ++
      "use sys.set_int_max_str_digits() to increase the limit"

end Overflow

/-- The arithmetic in which scores are computed. Comparisons answer `false` on what is no number. -/
class Scalar (α : Type) extends Add α, Sub α, Mul α, Div α, Neg α where
  /-- The number for the quotient of a whole number and a positive one. -/
  ofRatio : Int → Nat → α
  /-- A whole number that stays one, where the arithmetic knows them. -/
  whole : Int → α := fun n => ofRatio n 1
  /-- The whole number that a number is known to be. -/
  whole? : α → Option Int := fun _ => none
  /-- Why there is no such number, for what stands in the place of a result. -/
  overflow? : α → Option Overflow := fun _ => none
  lt : α → α → Bool
  le : α → α → Bool
  /-- Comparison with a whole number, without rounding it. -/
  compareInt? : α → Int → Option Ordering
  log2 : α → α
  isFinite : α → Bool
  /-- The decimal writing with a fixed number of places. -/
  fixed : Nat → α → Text

namespace Scalar

variable {α : Type} [Scalar α]

def ofInt (n : Int) : α := ofRatio n 1

def ofNat (n : Nat) : α := ofRatio n 1

/-- Whether two numbers are equal. -/
def eq (a b : α) : Bool := le a b && le b a

def leInt (a : α) (n : Int) : Bool := (compareInt? a n).any (· != .gt)

def gtInt (a : α) (n : Int) : Bool := compareInt? a n == some .gt

def ltInt (a : α) (n : Int) : Bool := compareInt? a n == some .lt

def eqInt (a : α) (n : Int) : Bool := compareInt? a n == some .eq

/-- The larger of two numbers. When they do not compare, their sum is as little a number as they
are. -/
def max (a b : α) : α := if le b a then a else if lt a b then b else a + b

/-- The smaller of two numbers. When they do not compare, their sum is as little a number as they
are. -/
def min (a b : α) : α := if le a b then a else if lt b a then b else a + b

/-- The sum from left to right. -/
def sum (xs : List α) : α := xs.foldl (· + ·) (ofInt 0)

/-- Adds numbers to eight running sums in turn, as long as eight of them are left. -/
def eightSums : (a b c d e f g h : α) → List α → α
  | a, b, c, d, e, f, g, h, x₁ :: x₂ :: x₃ :: x₄ :: x₅ :: x₆ :: x₇ :: x₈ :: r =>
    eightSums (a + x₁) (b + x₂) (c + x₃) (d + x₄) (e + x₅) (f + x₆) (g + x₇) (h + x₈) r
  | a, b, c, d, e, f, g, h, r =>
    r.foldl (· + ·) (((a + b) + (c + d)) + ((e + f) + (g + h)))

/-- The sum of up to 128 numbers, by eight running sums when there are as many. -/
def blockSum : List α → α
  | a :: b :: c :: d :: e :: f :: g :: h :: r => eightSums a b c d e f g h r
  | r => sum r

/-- The sum of many numbers by halves, down to blocks of at most 128. The rounding errors of doubles
grow slowly in this order. -/
def balancedSum : (fuel : Nat) → List α → α
  | 0, xs => blockSum xs
  | fuel + 1, xs =>
    if xs.length ≤ 128 then blockSum xs
    else
      let half := xs.length / 2 / 8 * 8
      balancedSum fuel (xs.take half) + balancedSum fuel (xs.drop half)

/-- The mean of some numbers. -/
def mean (xs : List α) : α := balancedSum xs.length xs / ofNat xs.length

end Scalar

instance : Scalar Float where
  ofRatio := Binary.nearest
  lt a b := a < b
  le a b := a ≤ b
  compareInt? := Binary.compareFloat?
  log2 := Float.log2
  isFinite := Float.isFinite
  fixed := Decimal.fixed

end SourceGrade
