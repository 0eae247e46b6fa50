import SourceGrade.Json.Shown
import SourceGrade.Number.Reading
import SourceGrade.Scoring.Complexity
import SourceGrade.Setting.Json
/-!
# Settings in the place of numbers

Scores can be asked for with values that are not known to be numbers. Texts count as the numbers
they write, flags never count as finite numbers, and whole numbers beyond all doubles are refused.
-/

namespace SourceGrade

/-- Why a setting cannot be used as a number. -/
inductive NumberError where
  | overflow (e : Overflow)
  | unreadable (t : Text)
  | noNumber (kind : Text)
  | noProduct (left right : Text)
  | noRepetition (kind : Text)
  | zeroDivisor
  | incomparable (e : Incomparable)
  deriving DecidableEq, Repr

namespace NumberError

def message : NumberError → Text
  | overflow e => e.message
  | unreadable t => "could not convert string to float: " ++ Text.quoted t
  | noNumber kind => "float() argument must be a string or a real number, not '" ++ kind ++ "'"
  | noProduct left right =>
    "unsupported operand type(s) for *: '" ++ left ++ "' and '" ++ right ++ "'"
  | noRepetition kind => "can't multiply sequence by non-int of type '" ++ kind ++ "'"
  | zeroDivisor => "float division by zero"
  | incomparable e => e.message

end NumberError

namespace Setting

/-- How a setting is shown in a sentence. -/
def shown (s : Setting) : Text := s.toJson.shown.visible

/-- The double of an amount. -/
def floatOf (a : Amount) : Except NumberError Float := a.toFloat?.mapError .overflow

/-- The double that a setting stands for. -/
def toReal (s : Setting) : Except NumberError Float :=
  match s, s.amount? with
  | text t, _ =>
    match Reading.float? t with
    | some x => .ok x
    | none => .error (.unreadable t)
  | _, some a => floatOf a
  | s, none => .error (.noNumber s.kind)

/-- The finite number that a setting stands for, when it does. -/
def finite? : Setting → Except NumberError (Option Float)
  | flag _ => .ok none
  | s =>
    match s.toReal with
    | .ok x => .ok (if x.isFinite then some x else none)
    | .error (.overflow e) => .error (.overflow e)
    | .error _ => .ok none

def isFiniteNumber (s : Setting) : Except NumberError Bool := s.finite?.map (·.isSome)

/-- A setting as a finite number, or a default. -/
def finiteOr (s default : Setting) : Except NumberError Setting :=
  s.finite?.map fun x? => (x?.map real).getD default

/-- The finite number nearest to a setting between two bounds, either of which may be absent. What
is no finite number counts as the lower bound. -/
def clamp (low high s : Setting) : Except NumberError Float := do
  let a := (← s.finiteOr low).toAmount
  let a := (low.amount?.map (Scalar.max a)).getD a
  floatOf ((high.amount?.map (Scalar.min a)).getD a)

/-- The share of a part in a whole, in percent. -/
def safePercent (part whole : Setting) : Except NumberError Float :=
  if whole.isNothing then .ok 0
  else do
    match ← whole.finite? with
    | none => return 0
    | some w =>
      let p ← part.finite?
      if w == 0 then .error .zeroDivisor else return Scalar.safePercent (p.getD 0) w

/-- Whether a comparison holds between two settings. -/
def compare (c : Comparison) (s t : Setting) : Except NumberError Bool :=
  (Comparable.compare c s t).mapError .incomparable

/-- A deduction compressed beyond a knee. -/
def compressDeduction (knee scale total : Setting) : Except NumberError Float := do
  let total : Float := Scalar.max 0 ((← total.finite?).getD 0)
  if ← compare .le (real total) knee then return total
  else
    match scale.amount? with
    | some scale => floatOf (Scalar.compressDeduction knee.toAmount scale (.real total))
    | none => .error (.noProduct "float" scale.kind)

/-- The score of a complexity. -/
def scoreOfComplexity (s : Setting) : Except NumberError Float := do
  let _ ← s.compare .le (whole 10)
  floatOf (complexityScore s.toAmount)

/-- The grade of a score, higher being better. -/
def gradeForScore (score aMin bMin cMin : Setting) : Except NumberError Grade := do
  if ← score.compare .ge aMin then return .a
  else if ← score.compare .ge bMin then return .b
  else if ← score.compare .ge cMin then return .c
  else return .d

/-- The grade of a value with limits that it should not exceed. -/
def gradeWithin (value aMax bMax cMax : Setting) : Except NumberError Grade := do
  if ← value.compare .le aMax then return .a
  else if ← value.compare .le bMax then return .b
  else if ← value.compare .le cMax then return .c
  else return .d

/-- The setting of an amount, unless it could not be computed. -/
def ofAmount : Amount → Except NumberError Setting
  | .flag b => .ok (flag b)
  | .whole n => .ok (whole n)
  | .real x => .ok (real x)
  | .tooLarge e => .error (.overflow e)

/-- So many copies of a list, one after the other. -/
def repeated {β : Type} (n : Int) (items : List β) : List β :=
  (List.replicate n.toNat items).flatten

/-- A setting times a factor. A text or a list is repeated. -/
def times (factor s : Setting) : Except NumberError Setting :=
  match s, s.amount?, factor.amount? with
  | _, some a, some b => ofAmount (a * b)
  | text t, _, _ =>
    match factor.whole? with
    | some n => .ok (text (repeated n t))
    | none => .error (.noRepetition factor.kind)
  | list items, _, _ =>
    match factor.whole? with
    | some n => .ok (list (repeated n items))
    | none => .error (.noRepetition factor.kind)
  | s, _, _ => .error (.noProduct s.kind factor.kind)

/-- A complexity raised for nesting. -/
def adjustedComplexity (t : Thresholds Setting Setting) (raw depth : Setting) :
    Except NumberError Setting := do
  if ← depth.compare .ge t.nestingSevereDepth then raw.times t.nestingSevereFactor
  else if ← depth.compare .ge t.nestingPenaltyDepth then
    if ← depth.twice.compare .gt raw then raw.times t.nestingPenaltyFactor
    else return real (← raw.toReal)
  else return real (← raw.toReal)

/-- Rates a complexity that is not known to be a number. -/
def rateComplexity (t : Thresholds Setting Setting) (raw depth : Setting) (hotspots : List Text) :
    Except NumberError (Rating Amount) := do
  if ← raw.isFiniteNumber then
    let adjusted ← raw.adjustedComplexity t depth
    let grade ← adjusted.gradeWithin t.complexityAMax t.complexityBMax t.complexityCMax
    let _ ← adjusted.toReal
    return complexityRating grade raw.shown adjusted.toAmount (!adjusted.same raw) depth.shown
      hotspots
  else return invalidScore .complexity

end Setting

end SourceGrade
