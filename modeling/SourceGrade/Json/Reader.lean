import SourceGrade.Json.Basic
import SourceGrade.Number.Reading
import SourceGrade.Text.Refusal
/-!
# Reading JSON

A text is a JSON value with blanks around it, or it is refused. Numbers with a point or an exponent
are doubles; the names `NaN`, `Infinity` and `-Infinity` are read too. Of two members with one name
the later value counts. Each nested value takes one unit of fuel, and there cannot be more of them
than characters. Lists and objects are nested only as deep as there is room.
-/

namespace SourceGrade.Json

def isSpace (c : Char) : Bool := c == ' ' || c == '\t' || c == '\n' || c == '\r'

def skipSpace (t : Text) : Text := t.dropWhile isSpace

/-- The code unit that four hexadecimal digits write, and what follows them. -/
def unit? : Text → Option (Nat × Text)
  | a :: b :: c :: d :: r => do
    let a ← Text.hexDigit? a
    let b ← Text.hexDigit? b
    let c ← Text.hexDigit? c
    let d ← Text.hexDigit? d
    some (((a * 16 + b) * 16 + c) * 16 + d, r)
  | _ => none

/-- The code unit of an escape that begins a text. -/
def escapedUnit? : Text → Option (Nat × Text)
  | '\\' :: 'u' :: r => unit? r
  | _ => none

/-- The code point that follows an escaped code unit. Two surrogates make one character. -/
def pointOfUnit (unit : Nat) (r : Text) : CodePoint × Text :=
  if 0xD800 ≤ unit ∧ unit < 0xDC00 then
    match escapedUnit? r with
    | some (low, r') =>
      if 0xDC00 ≤ low ∧ low < 0xE000 then
        (.char (Char.ofNat (0x10000 + (unit - 0xD800) * 1024 + (low - 0xDC00))), r')
      else (.surrogate unit, r)
    | none => (.surrogate unit, r)
  else if 0xDC00 ≤ unit ∧ unit < 0xE000 then (.surrogate unit, r)
  else (.char (Char.ofNat unit), r)

/-- The code point of an escape, given the text after the backslash. -/
def escaped? : Text → Option (CodePoint × Text)
  | '"' :: r => some (.char '"', r)
  | '\\' :: r => some (.char '\\', r)
  | '/' :: r => some (.char '/', r)
  | 'b' :: r => some (.char '\x08', r)
  | 'f' :: r => some (.char '\x0c', r)
  | 'n' :: r => some (.char '\n', r)
  | 'r' :: r => some (.char '\r', r)
  | 't' :: r => some (.char '\t', r)
  | 'u' :: r => (unit? r).map fun (unit, r) => pointOfUnit unit r
  | _ => none

/-- The rest of a string after its opening quote. -/
def stringTail? : (fuel : Nat) → Text → Option (CodePoints × Text)
  | 0, _ => none
  | _, [] => none
  | fuel + 1, c :: r =>
    if c = '"' then some ([], r)
    else if c = '\\' then do
      let (d, r) ← escaped? r
      let (t, r) ← stringTail? fuel r
      some (d :: t, r)
    else if c.val < 32 then none
    else do
      let (t, r) ← stringTail? fuel r
      some (.char c :: t, r)

/-- A string that begins a text. -/
def quoted? (t : Text) : Option (CodePoints × Text) :=
  match t with
  | '"' :: r => stringTail? (r.length + 1) r
  | _ => none

/-- The digits that begin a text; there has to be one. -/
def digits? (t : Text) : Option (Text × Text) :=
  match t.takeWhile Text.isAsciiDigit with
  | [] => none
  | ds => some (ds, t.dropWhile Text.isAsciiDigit)

/-- The places after a point that begins a text, with the point. -/
def places (t : Text) : Text × Text :=
  match t with
  | '.' :: r =>
    match digits? r with
    | some (ds, r) => ('.' :: ds, r)
    | none => ([], t)
  | _ => ([], t)

/-- The exponent that begins a text, with its mark and sign. -/
def exponent (t : Text) : Text × Text :=
  match t with
  | [] => ([], t)
  | e :: r =>
    if e = 'e' ∨ e = 'E' then
      let (sign, r) : Text × Text :=
        match r with
        | '+' :: r => (['+'], r)
        | '-' :: r => (['-'], r)
        | r => ([], r)
      match digits? r with
      | some (ds, r) => (e :: sign ++ ds, r)
      | none => ([], t)
    else ([], t)

/-- The whole number of some digits, with its sign. -/
def wholeNumber (negative : Bool) (digits : Text) : Except Refusal Json :=
  if Reading.maxDigits < digits.length then .error (.tooManyDigits digits.length)
  else
    let n : Int := Reading.digitsValue digits
    .ok (.int (if negative then -n else n))

/-- A number that begins a text. No zero stands before its whole part. -/
def number (t : Text) : Except Refusal (Json × Text) := do
  let (negative, r) : Bool × Text :=
    match t with
    | '-' :: r => (true, r)
    | r => (false, r)
  let (whole, r) ← Refusal.unless <|
    match r with
    | '0' :: r => some ((['0'] : Text), r)
    | r => digits? r
  let (fraction, r) := places r
  let (power, r) := exponent r
  if fraction.isEmpty && power.isEmpty then return (← wholeNumber negative whole, r)
  else
    let x ← Refusal.unless (Reading.float? (whole ++ fraction ++ power))
    return (.real (if negative then -x else x), r)

/-- The values that are written as a name. -/
def names : List (Text × Json) :=
  [("null", .null), ("true", .bool true), ("false", .bool false), ("NaN", .real (0 / 0)),
    ("Infinity", .real (1 / 0)), ("-Infinity", .real (-1 / 0))]

def name? (t : Text) : Option (Json × Text) :=
  names.findSome? fun (name, value) => (Text.dropPrefix? name t).map (value, ·)

/-- The lists and objects that can be inside each other. -/
def nestingRoom : Nat := 988

/-- The room that is left inside a container. -/
def roomInside (c : Container) : (room : Nat) → Except Refusal Nat
  | 0 => .error (.tooDeep c)
  | room + 1 => .ok room

mutual

/-- A value that begins a text without blanks before it. -/
def value : (fuel room : Nat) → Text → Except Refusal (Json × Text)
  | 0, _, _ => .error .malformed
  | fuel + 1, room, t =>
    match t with
    | [] => .error .malformed
    | '"' :: r =>
      Refusal.unless ((stringTail? (r.length + 1) r).map fun (s, r) => (ofCodePoints s, r))
    | '[' :: r => do
      let room ← roomInside .list room
      match skipSpace r with
      | ']' :: r => return (.list [], r)
      | r =>
        let (items, r) ← items fuel room r
        return (.list items, r)
    | '{' :: r => do
      let room ← roomInside .object room
      match skipSpace r with
      | '}' :: r => return (.object [], r)
      | r =>
        let (members, r) ← members fuel room r
        return (ofMembers members, r)
    | t =>
      match name? t with
      | some named => .ok named
      | none => number t

/-- The items of a list up to its closing bracket. -/
def items : (fuel room : Nat) → Text → Except Refusal (List Json × Text)
  | 0, _, _ => .error .malformed
  | fuel + 1, room, t => do
    let (item, r) ← value fuel room t
    match skipSpace r with
    | ']' :: r => return ([item], r)
    | ',' :: r =>
      let (more, r) ← items fuel room (skipSpace r)
      return (item :: more, r)
    | _ => .error .malformed

/-- The members of an object up to its closing brace. -/
def members : (fuel room : Nat) → Text → Except Refusal (List (CodePoints × Json) × Text)
  | 0, _, _ => .error .malformed
  | fuel + 1, room, t => do
    let (name, r) ← Refusal.unless (quoted? t)
    match skipSpace r with
    | ':' :: r =>
      let (v, r) ← value fuel room (skipSpace r)
      match skipSpace r with
      | '}' :: r => return ([(name, v)], r)
      | ',' :: r =>
        let (more, r) ← members fuel room (skipSpace r)
        return ((name, v) :: more, r)
      | _ => .error .malformed
    | _ => .error .malformed

end

/-- The value that a text writes. -/
def read (t : Text) : Except Refusal Json := do
  let (v, r) ← value (2 * t.length + 2) nestingRoom (skipSpace t)
  if (skipSpace r).isEmpty then return v else .error .malformed

end SourceGrade.Json
