import SourceGrade.Setting.Basic
import SourceGrade.Number.Reading
import SourceGrade.Text.Refusal
import SourceGrade.Pattern.Build
/-!
# Numbers and points in time of settings files
-/

namespace SourceGrade.Toml

open Pattern

def decimal : Pattern := between '0' '9'

/-- Digits of a kind, with single underscores between them. -/
def grouped (first digit : Pattern) : Pattern := first ++ many (optional "_" ++ digit)

def hexadecimal : Pattern := one fun c => (Text.hexDigit? c).isSome

/-- What makes a number a fraction: places after a point, an exponent, or both. -/
def fraction : Pattern :=
  optional ("." ++ grouped decimal decimal) ++
    optional (anyOf "eE" ++ optional (anyOf "+-") ++ grouped decimal decimal)

def number : Pattern :=
  ("0" : Pattern) ++ ("x" ++ grouped hexadecimal hexadecimal |||
      "b" ++ grouped (anyOf "01") (anyOf "01") |||
      "o" ++ grouped (between '0' '7') (between '0' '7')) |||
    optional (anyOf "+-") ++ ("0" ||| grouped (between '1' '9') decimal) ++ capture .rest fraction

/-- The value of digits in a base. -/
def digitsIn (base : Nat) (t : Text) : Int :=
  ((t.filterMap Text.hexDigit?).foldl (fun n d => n * base + d) 0 : Nat)

/-- The number that a text of its shape writes. A decimal number may not be too long. -/
def numberValue (m : Match) : Except Refusal Setting :=
  match m.text with
  | '0' :: 'x' :: r => .ok (.whole (digitsIn 16 r))
  | '0' :: 'b' :: r => .ok (.whole (digitsIn 2 r))
  | '0' :: 'o' :: r => .ok (.whole (digitsIn 8 r))
  | t =>
    if (m.textOf .rest).isEmpty then
      match Reading.tooManyDigits? t with
      | some count => .error (.tooManyDigits count)
      | none => .ok (.whole ((Reading.int? t).getD 0))
    else .ok (.real ((Reading.float? t).getD 0))

def minuteText : Pattern := between '0' '5' ++ decimal

def hourText : Pattern := anyOf "01" ++ decimal ||| "2" ++ between '0' '3'

/-- A time of day, with seconds and perhaps parts of them. -/
def timeText : Pattern :=
  hourText ++ ":" ++ minuteText ++ ":" ++ minuteText ++ optional ("." ++ many1 decimal)

/-- An offset from universal time. -/
def offsetText : Pattern := anyOf "Zz" ||| anyOf "+-" ++ hourText ++ ":" ++ minuteText

/-- A day, perhaps with a time, which may have an offset. -/
def dateText : Pattern :=
  capture .name (decimal ++ decimal ++ decimal ++ decimal ++ "-" ++
      ("0" ++ between '1' '9' ||| "1" ++ between '0' '2') ++ "-" ++
      ("0" ++ between '1' '9' ||| anyOf "12" ++ decimal ||| "3" ++ anyOf "01")) ++
    capture .rest (optional (anyOf "Tt " ++ timeText ++ optional offsetText))

/-- The number that some characters of a text write. -/
def numberAt (start length : Nat) (t : Text) : Nat :=
  Reading.digitsValue ((t.drop start).take length)

def dayOf (t : Text) : Day := ⟨numberAt 0 4 t, numberAt 5 2 t, numberAt 8 2 t⟩

/-- The time of day that begins a text. Of the places after the point six count. -/
def timeOf (t : Text) : TimeOfDay :=
  let places : Text :=
    match t.drop 8 with
    | '.' :: r => (r.takeWhile Text.isAsciiDigit).take 6
    | _ => []
  ⟨numberAt 0 2 t, numberAt 3 2 t, numberAt 6 2 t,
    Reading.digitsValue (places ++ List.replicate (6 - places.length) '0')⟩

/-- The offset at the end of a time, in minutes. -/
def offsetOf? (t : Text) : Option Int :=
  match t.dropWhile fun c => c != 'Z' && c != 'z' && c != '+' && c != '-' with
  | [] => none
  | '+' :: r => some (numberAt 0 2 r * 60 + numberAt 3 2 r : Nat)
  | '-' :: r => some (-(numberAt 0 2 r * 60 + numberAt 3 2 r : Nat))
  | _ => some 0

/-- A point in time that begins a text, if one does. A day that is not in the calendar is
refused. -/
def moment? (t : Text) : Except Refusal (Option (Moment × Text)) :=
  match dateText.matchStart t with
  | some m =>
    let day := dayOf (m.textOf .name)
    if day.isInCalendar then
      .ok (some (match m.textOf .rest with
        | [] => .date day
        | _ :: clock => .dateTime day (timeOf clock) (offsetOf? clock), m.rest))
    else .error .malformed
  | none => .ok ((timeText.matchStart t).map fun m => (.time (timeOf m.text), m.rest))

/-- The numbers that are written as a name. -/
def numberNames : List (Text × Float) :=
  [("inf", 1 / 0), ("nan", 0 / 0), ("-inf", -1 / 0), ("+inf", 1 / 0), ("-nan", 0 / 0),
    ("+nan", 0 / 0)]

/-- A number or a point in time that begins a text. -/
def scalar (t : Text) : Except Refusal (Setting × Text) := do
  match ← moment? t with
  | some (m, r) => return (.moment m, r)
  | none =>
    match number.matchStart t with
    | some m => return (← numberValue m, m.rest)
    | none =>
      Refusal.unless <|
        numberNames.findSome? fun (name, x) => (Text.dropPrefix? name t).map (.real x, ·)

end SourceGrade.Toml
