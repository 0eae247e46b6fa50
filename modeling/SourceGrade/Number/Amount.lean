import SourceGrade.Number.Scalar
/-!
# Amounts

Numbers as people write them: flags, whole numbers and doubles. Whole numbers stay exact as long as
they are added, subtracted and multiplied with each other, and comparisons are exact between all
kinds. Anything else is computed in doubles, and a whole number beyond all doubles has no result.
-/

namespace SourceGrade

inductive Amount where
  | flag (b : Bool)
  | whole (n : Int)
  | real (x : Float)
  /-- What stands in the place of a result that could not be computed. -/
  | tooLarge (reason : Overflow)
  deriving Inhabited

namespace Amount

/-- The whole number that an amount is; a flag counts as one or zero. -/
def whole? : Amount → Option Int
  | flag b => some (if b then 1 else 0)
  | whole n => some n
  | _ => none

/-- The double of an amount. -/
def toFloat? : Amount → Except Overflow Float
  | flag b => .ok (if b then 1 else 0)
  | whole n =>
    let x := Binary.nearest n 1
    if x.isFinite then .ok x else .error .operand
  | real x => .ok x
  | tooLarge reason => .error reason

/-- The double nearest to an amount, an infinity beyond all doubles. -/
def nearestFloat : Amount → Float
  | flag b => if b then 1 else 0
  | whole n => Binary.nearest n 1
  | real x => x
  | tooLarge _ => Binary.nearest (twoTo 1100) 1

def ofResult : Except Overflow Float → Amount
  | .ok x => real x
  | .error reason => tooLarge reason

/-- An operation on two amounts, which is one on whole numbers when both are whole. -/
def combine (wholes : Int → Int → Amount) (reals : Float → Float → Float) (a b : Amount) : Amount :=
  match a.whole?, b.whole? with
  | some m, some n => wholes m n
  | _, _ => ofResult do return reals (← a.toFloat?) (← b.toFloat?)

/-- The double nearest to a quotient of whole numbers. -/
def quotient (m n : Int) : Amount :=
  let x := Binary.nearest (if n < 0 then -m else m) n.natAbs
  if x.isFinite then real x else tooLarge .quotient

/-- How two amounts compare. -/
def order? (a b : Amount) : Option Ordering :=
  match a, b with
  | real x, real y => Binary.orderFloat? x y
  | real x, b => b.whole?.bind (Binary.compareFloat? x)
  | a, real y => a.whole?.bind fun m => (Binary.compareFloat? y m).map (·.swap)
  | a, b => do return compare (← a.whole?) (← b.whole?)

instance : Add Amount := ⟨combine (fun m n => whole (m + n)) (· + ·)⟩

instance : Sub Amount := ⟨combine (fun m n => whole (m - n)) (· - ·)⟩

instance : Mul Amount := ⟨combine (fun m n => whole (m * n)) (· * ·)⟩

instance : Div Amount := ⟨combine quotient (· / ·)⟩

instance : Neg Amount where
  neg
    | real x => real (-x)
    | tooLarge reason => tooLarge reason
    | a => whole (-(a.whole?.getD 0))

/-- Why an amount cannot be used as a double. -/
def overflow? (a : Amount) : Option Overflow :=
  match a.toFloat? with
  | .ok _ => none
  | .error reason => some reason

instance : Scalar Amount where
  ofRatio n d := real (Binary.nearest n d)
  whole := whole
  whole? := whole?
  overflow? := overflow?
  lt a b := order? a b == some .lt
  le a b := (order? a b).any (· != .gt)
  compareInt? a n := order? a (whole n)
  log2 a := ofResult (a.toFloat?.map Float.log2)
  isFinite
    | real x => x.isFinite
    | _ => true
  fixed places a := Decimal.fixed places a.nearestFloat

end Amount

end SourceGrade
