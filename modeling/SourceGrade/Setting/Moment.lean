import SourceGrade.Number.Comparable
import SourceGrade.Listing
/-!
# Points in time

Days, times of day, and days with a time, which may have an offset from universal time.
-/

namespace SourceGrade

/-- A day of the calendar. -/
structure Day where
  year : Nat
  month : Nat
  dayOfMonth : Nat
  deriving DecidableEq, Repr

/-- A time of day. -/
structure TimeOfDay where
  hour : Nat
  minute : Nat
  second : Nat
  microsecond : Nat
  deriving DecidableEq, Repr

inductive Moment where
  | date (day : Day)
  | time (time : TimeOfDay)
  /-- The offset is in minutes. -/
  | dateTime (day : Day) (time : TimeOfDay) (offset? : Option Int)
  deriving DecidableEq, Repr

namespace Day

def isLeapYear (year : Nat) : Bool := year % 4 == 0 && (year % 100 != 0 || year % 400 == 0)

def daysInMonth (year month : Nat) : Nat :=
  if month = 2 then (if isLeapYear year then 29 else 28)
  else if month = 4 ∨ month = 6 ∨ month = 9 ∨ month = 11 then 30
  else 31

/-- Whether a day of a month from one to twelve is in the calendar. -/
def isInCalendar (d : Day) : Bool :=
  1 ≤ d.year && 1 ≤ d.dayOfMonth && d.dayOfMonth ≤ daysInMonth d.year d.month

/-- The number of days up to the end of a day. -/
def number (d : Day) : Nat :=
  let past := d.year - 1
  past * 365 + past / 4 - past / 100 + past / 400 +
    Listing.total ((List.range (d.month - 1)).map fun m => daysInMonth d.year (m + 1)) +
    d.dayOfMonth

/-- A number with at least `width` digits. -/
def padded (width n : Nat) : Text :=
  List.replicate (width - (Text.ofNat n).length) '0' ++ Text.ofNat n

def text (d : Day) : Text :=
  padded 4 d.year ++ "-" ++ padded 2 d.month ++ "-" ++ padded 2 d.dayOfMonth

end Day

namespace TimeOfDay

/-- The microseconds since the beginning of the day. -/
def number (t : TimeOfDay) : Nat :=
  ((t.hour * 60 + t.minute) * 60 + t.second) * 1000000 + t.microsecond

/-- Hours, minutes and seconds, and the microseconds when there are any. -/
def text (t : TimeOfDay) : Text :=
  Day.padded 2 t.hour ++ ":" ++ Day.padded 2 t.minute ++ ":" ++ Day.padded 2 t.second ++
    (if t.microsecond = 0 then ([] : Text) else "." ++ Day.padded 6 t.microsecond)

end TimeOfDay

namespace Moment

def kind : Moment → Text
  | date _ => "datetime.date"
  | time _ => "datetime.time"
  | dateTime _ _ _ => "datetime.datetime"

/-- An offset as hours and minutes. -/
def offsetText (minutes : Int) : Text :=
  (if minutes < 0 then ("-" : Text) else "+") ++ Day.padded 2 (minutes.natAbs / 60) ++ ":" ++
    Day.padded 2 (minutes.natAbs % 60)

def text : Moment → Text
  | date d => d.text
  | time t => t.text
  | dateTime d t offset? => d.text ++ " " ++ t.text ++ (offset?.map offsetText).getD []

/-- The microseconds up to a time on a day, in universal time when there is an offset. -/
def instant (d : Day) (t : TimeOfDay) (offset? : Option Int) : Int :=
  ((d.number : Int) * 1440 - offset?.getD 0) * 60000000 + t.number

/-- Whether two moments are the same. -/
def same : Moment → Moment → Bool
  | date d, date e => d == e
  | time t, time u => t == u
  | dateTime d t p?, dateTime e u q? =>
    p?.isSome == q?.isSome && instant d t p? == instant e u q?
  | _, _ => false

/-- Whether a comparison holds between two moments. -/
def compareWith (c : Comparison) (m n : Moment) : Except Incomparable Bool :=
  match m, n with
  | date d, date e => .ok (c.holds (compare d.number e.number))
  | time t, time u => .ok (c.holds (compare t.number u.number))
  | dateTime d t p?, dateTime e u q? =>
    if p?.isSome = q?.isSome then .ok (c.holds (compare (instant d t p?) (instant e u q?)))
    else .error .offsets
  | date _, dateTime _ _ _ => .error .dayAndTime
  | dateTime _ _ _, date _ => .error .dayAndTime
  | _, _ => .error (.kinds c m.kind n.kind)

end Moment

end SourceGrade
