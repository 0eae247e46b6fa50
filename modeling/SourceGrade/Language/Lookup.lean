import SourceGrade.Language.Table
import SourceGrade.Text.Case
/-!
# Looking up a language by tag

A tag is a name or an alias, in any case and with blanks around it. A strict lookup refuses a tag
that no language has; a lenient one falls back to the generic language.
-/

namespace SourceGrade.Language

/-- Whether a language answers to a tag that is already in lower case. -/
def answersTo (key : Text) (l : Language) : Bool := l.name == key || l.aliases.contains key

/-- The language that has this tag. -/
def find? (tag : Text) : Option Language :=
  table.find? (answersTo (Text.lower (Text.strip tag)))

/-- The language that has this tag, or the generic one. -/
def resolve (tag : Text) : Language := (find? tag).getD generic

/-- The languages in the order of their names. -/
def sorted : List Language := [c, generic, go, java, javascript, python, ruby, rust]

def supportedNames : List Text := sorted.map (·.name)

/-- The refusal of a tag that no language has. -/
structure UnknownTag where
  tag : Text

namespace UnknownTag

/-- The names of the languages there are, in one text. -/
def supported : Text := Text.join ", " supportedNames

def message (e : UnknownTag) : Text :=
  "Unsupported language: " ++ e.tag ++ " (language=" ++ e.tag ++ ", supported=" ++ supported ++ ")"

end UnknownTag

/-- The language that has this tag; an unknown tag is refused. -/
def require (tag : Text) : Except UnknownTag Language :=
  match find? tag with
  | some l => .ok l
  | none => .error ⟨tag⟩

end SourceGrade.Language
