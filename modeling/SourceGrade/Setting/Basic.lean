import SourceGrade.Number.Amount
import SourceGrade.Setting.Moment
/-!
# Settings

A setting is a value as a person writes it into a settings file: its kind is not fixed beforehand.
Numbers, texts, points in time and lists are compared with their like; other comparisons fail and
name the kinds.
-/

namespace SourceGrade

inductive Setting where
  | absent
  | flag (b : Bool)
  | whole (n : Int)
  | real (x : Float)
  | text (t : Text)
  | moment (m : Moment)
  | list (items : List Setting)
  | table (members : List (Text × Setting))
  deriving Inhabited

namespace Setting

/-- The name of the kind of a setting. -/
def kind : Setting → Text
  | absent => "NoneType"
  | flag _ => "bool"
  | whole _ => "int"
  | real _ => "float"
  | text _ => "str"
  | moment m => m.kind
  | list _ => "list"
  | table _ => "dict"

/-- Whether a setting counts as nothing: a zero, or what is empty. -/
def isNothing : Setting → Bool
  | absent => true
  | flag b => !b
  | whole n => n == 0
  | real x => x == 0
  | text t => t.isEmpty
  | moment _ => false
  | list items => items.isEmpty
  | table members => members.isEmpty

/-- A setting as an amount, when it is a number or a flag. -/
def amount? : Setting → Option Amount
  | flag b => some (.flag b)
  | whole n => some (.whole n)
  | real x => some (.real x)
  | _ => none

/-- A setting as an amount; what is no number counts as zero. -/
def toAmount (s : Setting) : Amount := s.amount?.getD (.whole 0)

/-- A setting as a whole number, when it is one or a flag. -/
def whole? (s : Setting) : Option Int := s.amount?.bind (·.whole?)

mutual

/-- Whether two settings are the same value. Numbers are the same whatever their kinds. -/
def same : Setting → Setting → Bool
  | absent, absent => true
  | text s, text t => s == t
  | moment m, moment n => m.same n
  | list xs, list ys => sameItems xs ys
  | table xs, table ys => xs.length == ys.length && sameMembers xs ys
  | s, t =>
    match s.amount?, t.amount? with
    | some a, some b => a.order? b == some .eq
    | _, _ => false

def sameItems : List Setting → List Setting → Bool
  | [], [] => true
  | x :: xs, y :: ys => same x y && sameItems xs ys
  | _, _ => false

/-- Whether all members of a table have the same values in another. -/
def sameMembers : List (Text × Setting) → List (Text × Setting) → Bool
  | [], _ => true
  | (name, x) :: xs, ys =>
    (match ys.lookup name with
      | some y => same x y
      | none => false) && sameMembers xs ys

end

def textOrder (s t : Text) : Ordering := if s = t then .eq else if Text.le s t then .lt else .gt

mutual

/-- Whether a comparison holds between two settings. Lists are compared by the first items that
differ, and by length when there are none. -/
def compareWith (c : Comparison) : Setting → Setting → Except Incomparable Bool
  | text s, text t => .ok (c.holds (textOrder s t))
  | moment m, moment n => m.compareWith c n
  | list xs, list ys => compareItems c xs ys
  | s, t =>
    match s.amount?, t.amount? with
    | some a, some b => .ok ((a.order? b).any c.holds)
    | _, _ => .error (.kinds c s.kind t.kind)

def compareItems (c : Comparison) : List Setting → List Setting → Except Incomparable Bool
  | [], [] => .ok (c.holds .eq)
  | [], _ :: _ => .ok (c.holds .lt)
  | _ :: _, [] => .ok (c.holds .gt)
  | x :: xs, y :: ys => if same x y then compareItems c xs ys else compareWith c x y

end

/-- Twice a setting; a text or a list is repeated. -/
def twice : Setting → Setting
  | flag b => whole (if b then 2 else 0)
  | whole n => whole (n * 2)
  | real x => real (x * 2)
  | text t => text (t ++ t)
  | list items => list (items ++ items)
  | s => s

instance : Limit Setting where
  compare := compareWith
  whole := whole
  real n := real (Binary.nearest n 1)
  whole? := whole?
  twice := twice

instance : LimitIn Setting Amount := ⟨toAmount⟩

end Setting

end SourceGrade
