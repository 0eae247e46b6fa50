import SourceGrade.Json.Basic
import SourceGrade.Number.Decimal
import SourceGrade.Number.Reading
/-!
# Writing JSON

Values are written in ASCII: characters beyond it, and controls, as escapes of their code units.
Doubles get the fewest digits that read back. A value is written on one line, or with an item or
member per line and two columns of indentation for each level.
-/

namespace SourceGrade.Json

def hexDigits (n : Nat) : Text :=
  let digits := Nat.toDigits 16 n
  List.replicate (4 - digits.length) '0' ++ digits

/-- The escape of a code unit. -/
def unitEscape (n : Nat) : Text := "\\u" ++ hexDigits n

/-- A character inside a string. -/
def writeChar (c : Char) : Text :=
  if c = '"' then "\\\""
  else if c = '\\' then "\\\\"
  else if c = '\n' then "\\n"
  else if c = '\r' then "\\r"
  else if c = '\t' then "\\t"
  else if c = '\x0c' then "\\f"
  else if c = '\x08' then "\\b"
  else
    let n := c.val.toNat
    if 32 ≤ n ∧ n < 127 then [c]
    else if n < 0x10000 then unitEscape n
    else unitEscape (0xD800 + (n - 0x10000) / 1024) ++ unitEscape (0xDC00 + (n - 0x10000) % 1024)

def writeString (t : Text) : Text := '"' :: (t.flatMap writeChar ++ ['"'])

def writePoint : CodePoint → Text
  | .char c => writeChar c
  | .surrogate unit => unitEscape unit

def writePoints (t : CodePoints) : Text := '"' :: (t.flatMap writePoint ++ ['"'])

/-- A double in its fewest digits. -/
def writeReal (x : Float) : Text :=
  if x.isNaN then "NaN" else if x.isInf then (if x < 0 then "-Infinity" else "Infinity")
  else Decimal.shortest x

/-- Between which texts the parts of a value stand, by its level. -/
structure Layout where
  opening : Nat → Text
  separator : Nat → Text
  closing : Nat → Text
  colon : Text := ": "

/-- Everything on one line. -/
def Layout.line : Layout := ⟨fun _ => [], fun _ => ", ", fun _ => [], ": "⟩

/-- The beginning of a line of a level. -/
def newLine (level : Nat) : Text := '\n' :: List.replicate (2 * level) ' '

/-- One part per line. -/
def Layout.indented : Layout :=
  ⟨fun level => newLine (level + 1), fun level => ',' :: newLine (level + 1),
    fun level => newLine level, ": "⟩

mutual

/-- A value at a level. Empty lists and objects stay on one line. -/
def write (layout : Layout) (level : Nat) : Json → Text
  | null => "null"
  | bool true => "true"
  | bool false => "false"
  | int n => Text.ofInt n
  | real x => writeReal x
  | text t => writeString t
  | codePoints t => writePoints t
  | list [] => "[]"
  | list (item :: items) =>
    '[' :: (layout.opening level ++ write layout (level + 1) item ++
      writeItems layout level items ++ layout.closing level ++ [']'])
  | object [] => "\x7b\x7d"
  | object ((name, value) :: members) =>
    '{' :: (layout.opening level ++ writeString name ++ layout.colon ++
      write layout (level + 1) value ++ writeMembers layout level members ++
      layout.closing level ++ ['}'])
  | wideObject [] => "\x7b\x7d"
  | wideObject ((name, value) :: members) =>
    '{' :: (layout.opening level ++ writePoints name ++ layout.colon ++
      write layout (level + 1) value ++ writeWideMembers layout level members ++
      layout.closing level ++ ['}'])

/-- The items of a list after its first. -/
def writeItems (layout : Layout) (level : Nat) : List Json → Text
  | [] => []
  | item :: items =>
    layout.separator level ++ write layout (level + 1) item ++ writeItems layout level items

/-- The members of an object after its first. -/
def writeMembers (layout : Layout) (level : Nat) : List (Text × Json) → Text
  | [] => []
  | (name, value) :: members =>
    layout.separator level ++ writeString name ++ layout.colon ++
      write layout (level + 1) value ++ writeMembers layout level members

/-- The members of an object after its first, when their names need not be texts. -/
def writeWideMembers (layout : Layout) (level : Nat) : List (CodePoints × Json) → Text
  | [] => []
  | (name, value) :: members =>
    layout.separator level ++ writePoints name ++ layout.colon ++
      write layout (level + 1) value ++ writeWideMembers layout level members

end

/-- Puts a member in its place among sorted members. -/
def insertSorted (name : Text) (value : Json) : List (Text × Json) → List (Text × Json)
  | [] => [(name, value)]
  | (n, v) :: rest =>
    if Text.le name n then (name, value) :: (n, v) :: rest
    else (n, v) :: insertSorted name value rest

mutual

/-- A value with the members of its objects sorted by name, at every level. -/
def sortNames : Json → Json
  | list items => list (sortItems items)
  | object members => object (sortMembers members)
  | value => value

def sortItems : List Json → List Json
  | [] => []
  | item :: items => sortNames item :: sortItems items

def sortMembers : List (Text × Json) → List (Text × Json)
  | [] => []
  | (name, value) :: members => insertSorted name (sortNames value) (sortMembers members)

end

mutual

/-- Whether no whole number in a value has too many digits to be written. -/
def isWritable : Json → Bool
  | int n => n.natAbs < tenTo Reading.maxDigits
  | list items => areWritable items
  | object members => membersAreWritable members
  | wideObject members => wideMembersAreWritable members
  | _ => true

def areWritable : List Json → Bool
  | [] => true
  | item :: items => isWritable item && areWritable items

def membersAreWritable : List (Text × Json) → Bool
  | [] => true
  | (_, value) :: members => isWritable value && membersAreWritable members

def wideMembersAreWritable : List (CodePoints × Json) → Bool
  | [] => true
  | (_, value) :: members => isWritable value && wideMembersAreWritable members

end

/-- A value on one line. -/
def line (v : Json) : Text := write .line 0 v

/-- A value with one part per line. -/
def indented (v : Json) : Text := write .indented 0 v

end SourceGrade.Json
