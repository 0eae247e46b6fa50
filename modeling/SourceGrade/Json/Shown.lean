import SourceGrade.Json.Basic
import SourceGrade.Number.Decimal
import SourceGrade.Text.Quoted
/-!
# Values shown as texts

How a value reads in a sentence: a text as it is, numbers in their fewest digits, and lists and
objects with their texts in quotes.
-/

namespace SourceGrade.Json

mutual

/-- A value inside a list or an object, shown as text. -/
def shownInside : Json → Text
  | null => "None"
  | bool true => "True"
  | bool false => "False"
  | int n => Text.ofInt n
  | real x => Decimal.shortest x
  | text t => Text.quoted t
  | codePoints t => t.quoted
  | list items => '[' :: (shownItems items ++ [']'])
  | object members => '{' :: (shownMembers members ++ ['}'])
  | wideObject members => '{' :: (shownWideMembers members ++ ['}'])

def shownItems : List Json → Text
  | [] => []
  | [item] => shownInside item
  | item :: items => shownInside item ++ ", " ++ shownItems items

def shownMembers : List (Text × Json) → Text
  | [] => []
  | [(name, value)] => Text.quoted name ++ ": " ++ shownInside value
  | (name, value) :: members =>
    Text.quoted name ++ ": " ++ shownInside value ++ ", " ++ shownMembers members

def shownWideMembers : List (CodePoints × Json) → Text
  | [] => []
  | [(name, value)] => CodePoints.quoted name ++ ": " ++ shownInside value
  | (name, value) :: members =>
    CodePoints.quoted name ++ ": " ++ shownInside value ++ ", " ++ shownWideMembers members

end

/-- A value as text; a string is shown as it is. -/
def shown : Json → CodePoints
  | text t => t
  | codePoints t => t
  | value => shownInside value

end SourceGrade.Json
