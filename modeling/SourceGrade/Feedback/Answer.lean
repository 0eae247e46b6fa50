import SourceGrade.Json.Reader
import SourceGrade.Json.Shown
/-!
# Objects in answers

A language model is asked for a JSON object and may put other text around it. The object reaches
from the first opening brace to the last closing one. An answer without an object is no error, but
one with a number that is too long or with values that are nested too deeply is.
-/

namespace SourceGrade

/-- What a text holds from its first opening brace to its last closing one. -/
def bracedPart? (t : Text) : Option Text :=
  match ((t.dropWhile (· != '{')).reverse.dropWhile (· != '}')).reverse with
  | [] => none
  | part => some part

/-- What makes an object in an answer unreadable. -/
inductive AnswerError where
  | tooManyDigits (count : Nat)
  | tooDeep (container : Container)
  deriving DecidableEq, Repr

namespace AnswerError

def message : AnswerError → Text
  | tooManyDigits count => Reading.tooManyDigitsMessage count
  | tooDeep container =>
    "maximum recursion depth exceeded while decoding a JSON " ++
      (match container with
      | .list => ("array" : Text)
      | .object => "object") ++ " from a unicode string"

end AnswerError

/-- The members of the object that an answer holds. -/
def answeredObject? (t : Text) : Except AnswerError (Option (List (Text × Json))) :=
  match (bracedPart? t).map Json.read with
  | some (.ok v) => .ok v.textMembers?
  | some (.error (.tooManyDigits count)) => .error (.tooManyDigits count)
  | some (.error (.tooDeep container)) => .error (.tooDeep container)
  | some (.error .malformed) => .ok none
  | none => .ok none

namespace Json

/-- Whether a value counts as nothing: a zero, or what is empty. -/
def isNothing : Json → Bool
  | null => true
  | bool b => !b
  | int n => n == 0
  | real x => x == 0
  | text t => t.isEmpty
  | codePoints t => t.isEmpty
  | list items => items.isEmpty
  | object members => members.isEmpty
  | wideObject members => members.isEmpty

/-- The code points of a string. -/
def string? : Json → Option CodePoints
  | text t => some t
  | codePoints t => some t
  | _ => none

/-- A string that is not blank. -/
def writtenString? (v : Json) : Option CodePoints :=
  v.string?.filter fun t => !t.toText?.any Text.allBlank

end Json

end SourceGrade
