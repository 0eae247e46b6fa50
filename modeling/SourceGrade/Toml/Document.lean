import SourceGrade.Setting.Basic
/-!
# Tables under construction

A settings file builds its tables statement by statement. A table may be opened once, what is
written inline may not be extended, and a table that was begun by keys with points may not be opened
later.
-/

namespace SourceGrade.Toml

/-- The names that lead to a table. -/
abbrev Path := List Text

/-- The members of a table. -/
abbrev Members := List (Text × Setting)

/-- Sets the value of a member where it stands, or adds it at the end. -/
def setMember (name : Text) (value : Setting) : Members → Members
  | [] => [(name, value)]
  | (n, v) :: rest => if n = name then (n, value) :: rest else (n, v) :: setMember name value rest

/-- Changes the last item of a list of tables. -/
def updateLast (f : Members → Option Members) (items : List Setting) : Option (List Setting) :=
  match items.getLast? with
  | some (.table members) => (f members).map fun members => items.dropLast ++ [.table members]
  | _ => none

/-- Changes the table at a path, where missing tables are created. A list of tables stands for its
last one, if `intoLists` allows it. -/
def updateAt (intoLists : Bool) (f : Members → Option Members) : Path → Members → Option Members
  | [], members => f members
  | name :: path, members => do
    let value ←
      match members.lookup name with
      | none => (updateAt intoLists f path []).map .table
      | some (.table inner) => (updateAt intoLists f path inner).map .table
      | some (.list items) =>
        if intoLists then (updateLast (updateAt intoLists f path) items).map .list else none
      | some _ => none
    some (setMember name value members)

/-- Adds a member that the table does not have yet. -/
def addMember (name : Text) (value : Setting) (members : Members) : Option Members :=
  if (members.lookup name).isSome then none else some (members ++ [(name, value)])

/-- Adds an empty table to the list of tables that a member is. -/
def addTable (name : Text) (members : Members) : Option Members :=
  match members.lookup name with
  | none => some (members ++ [(name, .list [.table []])])
  | some (.list items) => some (setMember name (.list (items ++ [.table []])) members)
  | some _ => none

/-- A settings file that is read up to some statement. -/
structure Document where
  members : Members := []
  /-- The tables that may not be opened any more. -/
  opened : List Path := []
  /-- Tables begun by keys with points in the present section. -/
  pending : List Path := []
  /-- Values written inline, with all that is below them. -/
  frozen : List Path := []
  /-- The table that keys are added to. -/
  section_ : Path := []

namespace Document

def isFrozen (d : Document) (path : Path) : Bool := d.frozen.any (·.isPrefixOf path)

/-- Ends a section. -/
def endSection (d : Document) : Document :=
  { d with opened := d.opened ++ d.pending, pending := [] }

/-- Opens a table. -/
def openTable (path : Path) (d : Document) : Option Document :=
  let d := d.endSection
  if d.opened.contains path || d.isFrozen path then none
  else
    (updateAt true some path d.members).map fun members =>
      { d with members := members, opened := path :: d.opened, section_ := path }

/-- Opens a new table at the end of a list of tables. What was known about the table before it does
not hold for the new one. -/
def openListTable (path : Path) (d : Document) : Option Document :=
  let d := d.endSection
  if d.isFrozen path then none
  else
    (updateAt true (addTable (path.getLastD [])) path.dropLast d.members).map fun members =>
      { d with
        members := members
        opened := path :: d.opened.filter fun p => !path.isPrefixOf p
        frozen := d.frozen.filter fun p => !path.isPrefixOf p
        section_ := path }

/-- Whether a value was written inline and is closed. -/
def isClosed : Setting → Bool
  | .list _ => true
  | .table _ => true
  | _ => false

/-- Gives a key of the present section its value. -/
def assign (key : Path) (value : Setting) (d : Document) : Option Document :=
  let begun := (List.range key.length).tail.map fun i => d.section_ ++ key.take i
  let parent := d.section_ ++ key.dropLast
  if begun.any d.opened.contains || d.isFrozen parent then none
  else
    (updateAt true (addMember (key.getLastD []) value) parent d.members).map fun members =>
      { d with
        members := members
        pending := d.pending ++ begun
        frozen := if isClosed value then (d.section_ ++ key) :: d.frozen else d.frozen }

end Document

/-- Gives a key of an inline table its value. `frozen` holds the keys whose values are closed. -/
def assignInline (key : Path) (value : Setting) (frozen : List Path) (members : Members) :
    Option Members :=
  if frozen.any (·.isPrefixOf key) then none
  else updateAt false (addMember (key.getLastD []) value) key.dropLast members

end SourceGrade.Toml
