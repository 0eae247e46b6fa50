import SourceGrade.Text.CodePoint
/-!
# JSON values

Values with whole numbers of any size, doubles, and objects whose members keep their order. A string
is a text, unless surrogates stand alone in it; so is the name of a member.
-/

namespace SourceGrade

inductive Json where
  | null
  | bool (b : Bool)
  | int (n : Int)
  | real (x : Float)
  | text (t : Text)
  /-- A string that is no text. -/
  | codePoints (t : CodePoints)
  | list (items : List Json)
  | object (members : List (Text × Json))
  /-- An object with a name that is no text. -/
  | wideObject (members : List (CodePoints × Json))
  deriving Inhabited

namespace Json

/-- The string of some code points. -/
def ofCodePoints (t : CodePoints) : Json :=
  match t.toText? with
  | some t => text t
  | none => codePoints t

/-- The value of the first member with a name. -/
def member? (name : Text) (members : List (Text × Json)) : Option Json := members.lookup name

/-- The member of an object with a name. -/
def field? (name : Text) : Json → Option Json
  | object members => member? name members
  | _ => none

/-- The members of an object whose names are texts. -/
def textMembers? : Json → Option (List (Text × Json))
  | object members => some members
  | wideObject members =>
    some (members.filterMap fun (name, value) => (CodePoints.toText? name).map (·, value))
  | _ => none

/-- Sets a member: in its old place when there is one, else at the end. -/
def setMember {ν : Type} [DecidableEq ν] (name : ν) (value : Json) :
    List (ν × Json) → List (ν × Json)
  | [] => [(name, value)]
  | (n, v) :: rest => if n = name then (n, value) :: rest else (n, v) :: setMember name value rest

/-- The members of an object in which a later value of a name replaces an earlier one. -/
def membersOf {ν : Type} [DecidableEq ν] (pairs : List (ν × Json)) : List (ν × Json) :=
  pairs.foldl (fun members (n, v) => setMember n v members) []

/-- The object of some members. Of two members with one name the later value counts. -/
def ofMembers (pairs : List (CodePoints × Json)) : Json :=
  match pairs.mapM fun (name, value) => (CodePoints.toText? name).map (·, value) with
  | some members => object (membersOf members)
  | none => wideObject (membersOf pairs)

end Json

end SourceGrade
