import SourceGrade.Json.Basic
import SourceGrade.Setting.Basic
/-!
# Settings and amounts as JSON

Values keep their kinds. A point in time is written as a text.
-/

namespace SourceGrade

def Amount.toJson : Amount → Json
  | flag b => .bool b
  | whole n => .int n
  | real x => .real x
  | tooLarge _ => .null

namespace Setting

mutual

def toJson : Setting → Json
  | absent => .null
  | flag b => .bool b
  | whole n => .int n
  | real x => .real x
  | text t => .text t
  | moment m => .text m.text
  | list items => .list (itemsToJson items)
  | table members => .object (membersToJson members)

def itemsToJson : List Setting → List Json
  | [] => []
  | s :: ss => toJson s :: itemsToJson ss

def membersToJson : List (Text × Setting) → List (Text × Json)
  | [] => []
  | (name, s) :: r => (name, toJson s) :: membersToJson r

end

end Setting

end SourceGrade
