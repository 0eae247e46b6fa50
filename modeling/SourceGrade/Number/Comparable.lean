import SourceGrade.Number.Scalar
/-!
# Comparisons

Values that limits can have are compared with each other and with constants. A comparison fails when
two values have no order between their kinds. Limits of whole numbers can have kinds of their own.
-/

namespace SourceGrade

/-- The signs of a comparison. -/
inductive Comparison where
  | lt | le | gt | ge
  deriving DecidableEq, Repr

namespace Comparison

def sign : Comparison → Text
  | lt => "<"
  | le => "<="
  | gt => ">"
  | ge => ">="

/-- Whether a comparison holds between values in an order. -/
def holds : Comparison → Ordering → Bool
  | lt, .lt => true
  | le, .lt => true
  | le, .eq => true
  | gt, .gt => true
  | ge, .gt => true
  | ge, .eq => true
  | _, _ => false

end Comparison

/-- Two values that cannot be compared. -/
inductive Incomparable where
  /-- There is no order between their kinds. -/
  | kinds (comparison : Comparison) (left right : Text)
  /-- One is a day and the other a point in time on a day. -/
  | dayAndTime
  /-- Only one of two points in time has an offset. -/
  | offsets
  deriving DecidableEq, Repr

namespace Incomparable

def message : Incomparable → Text
  | kinds comparison left right =>
    "'" ++ comparison.sign ++ "' not supported between instances of '" ++ left ++ "' and '" ++
      right ++ "'"
  | dayAndTime => "can't compare datetime.datetime to datetime.date"
  | offsets => "can't compare offset-naive and offset-aware datetimes"

end Incomparable

/-- Values that are compared with each other and with constants. -/
class Comparable (ν : Type) where
  compare : Comparison → ν → ν → Except Incomparable Bool
  /-- A constant among the whole numbers. -/
  whole : Int → ν
  /-- A constant among the other numbers. -/
  real : Int → ν

/-- Comparable values as limits of whole numbers. -/
class Limit (ι : Type) extends Comparable ι where
  /-- The whole number that a limit is, when it is one. -/
  whole? : ι → Option Int
  twice : ι → ι

/-- Limits of a type as numbers of an arithmetic. -/
class LimitIn (ι α : Type) where
  toScalar : ι → α

instance : Limit Int where
  compare c m n := .ok (c.holds (Ord.compare m n))
  whole := id
  real := id
  whole? := some
  twice n := n * 2

instance {α : Type} [Scalar α] : LimitIn Int α := ⟨Scalar.whole⟩

instance {α : Type} [Scalar α] : Comparable α where
  compare
    | .lt, x, y => .ok (Scalar.lt x y)
    | .le, x, y => .ok (Scalar.le x y)
    | .gt, x, y => .ok (Scalar.lt y x)
    | .ge, x, y => .ok (Scalar.le y x)
  whole := Scalar.ofInt
  real := Scalar.ofInt

namespace Comparable

variable {ν : Type} [Comparable ν]

/-- Whether a comparison holds; between values that cannot be compared none does. -/
def holds (c : Comparison) (x y : ν) : Bool :=
  match compare c x y with
  | .ok answer => answer
  | .error _ => false

/-- Whether a whole number is above a limit. -/
def exceeds (n : Int) (limit : ν) : Bool := holds .gt (whole n) limit

/-- Whether a whole number is at or above a limit. -/
def reaches (n : Int) (limit : ν) : Bool := holds .ge (whole n) limit

/-- Whether a whole number is below a limit. -/
def isBelow (n : Int) (limit : ν) : Bool := holds .lt (whole n) limit

/-- Whether a whole number is at or below a limit. -/
def isWithin (n : Int) (limit : ν) : Bool := holds .le (whole n) limit

end Comparable

end SourceGrade
