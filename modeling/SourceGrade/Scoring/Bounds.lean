import SourceGrade.Number.Scalar
/-!
# Bounded arithmetic

Scores stay between two bounds, shares of a whole between 0 and 100, and large deductions grow only
with their logarithm.
-/

namespace SourceGrade.Scalar

variable {α : Type} [Scalar α]

/-- The number, or a default for what is not finite. -/
def finiteOr (default x : α) : α := if isFinite x then x else default

/-- The nearest number between two bounds; what is not finite becomes the lower bound. -/
def clamp (low high x : α) : α := min (max (finiteOr low x) low) high

/-- A score between 0 and 100. -/
def clampScore (x : α) : α := clamp (ofInt 0) (ofInt 100) x

/-- The share of a part in a whole, in percent between 0 and 100; 0 when the whole is 0 or not
finite. -/
def safePercent (part whole : α) : α :=
  if eqInt whole 0 || !isFinite whole then ofInt 0
  else clampScore (finiteOr (ofInt 0) part / whole * ofInt 100)

/-- A deduction, kept up to the knee; beyond it each doubling of the excess costs `scale`. -/
def compressDeduction (knee scale total : α) : α :=
  let total := max (ofInt 0) (finiteOr (ofInt 0) total)
  if le total knee then total else knee + log2 (total - knee + ofInt 1) * scale

end SourceGrade.Scalar
