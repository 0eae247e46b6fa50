import SourceGrade.Text.Basic
/-!
# Options

The words of a command line are options, values of options, and operands. A long option may carry
its value after an equals sign, short ones may stand together behind one dash, and a double dash
ends the options.
-/

namespace SourceGrade

/-- A known option. -/
structure OptionSpec where
  /-- Its long name, with two dashes. -/
  name : Text
  /-- Its letter, behind one dash. -/
  letter? : Option Char := none
  takesValue : Bool := false
  deriving DecidableEq, Repr

/-- An option on a command line, by its long name. -/
structure GivenOption where
  name : Text
  value? : Option Text
  deriving DecidableEq, Repr

/-- Why a command line is refused. -/
inductive UsageError where
  | unknownOption (name : Text)
  | missingValue (name : Text)
  | unexpectedValue (name : Text)
  | missingCommand
  | unknownCommand (name : Text)
  | missingOperand
  | extraOperand (word : Text)
  | unusablePath (path : Text)
  deriving DecidableEq, Repr

/-- The options and operands of a command line. -/
structure GivenWords where
  options : List GivenOption
  operands : List Text
  deriving DecidableEq, Repr

namespace OptionSpec

/-- The options in a word after its dash, which stand for single letters; and whether the last of
them takes the next word as its value. -/
def letters (specs : List OptionSpec) : Text → Except UsageError (List GivenOption × Option Text)
  | [] => .ok ([], none)
  | c :: r =>
    match specs.find? (·.letter? = some c) with
    | none => .error (.unknownOption ['-', c])
    | some s =>
      if s.takesValue then
        if r.isEmpty then .ok ([], some s.name) else .ok ([⟨s.name, some r⟩], none)
      else (letters specs r).map fun (found, waiting) => (⟨s.name, none⟩ :: found, waiting)

/-- What a word with a dash stands for: options, and perhaps one that waits for its value. -/
def ofWord (specs : List OptionSpec) (word : Text) :
    Except UsageError (List GivenOption × Option Text) :=
  let name := word.takeWhile (· != '=')
  let value? := (word.dropWhile (· != '=')).tail?
  match specs.find? (·.name = name) with
  | some s =>
    if s.takesValue then
      .ok (match value? with
        | some v => ([⟨s.name, some v⟩], none)
        | none => ([], some s.name))
    else if value?.isSome then .error (.unexpectedValue name)
    else .ok ([⟨s.name, none⟩], none)
  | none =>
    if Text.startsWith "--" word then .error (.unknownOption name) else letters specs word.tail

/-- Whether a word stands for options. -/
def isOptionWord (word : Text) : Bool := Text.startsWith "-" word && 2 ≤ word.length

end OptionSpec

namespace GivenWords

/-- Adds options before those of the rest. -/
def prepend (found : List GivenOption) (w : GivenWords) : GivenWords :=
  { w with options := found ++ w.options }

/-- Sorts the words of a command line. `waiting?` is an option that takes the next word, and
`mixed` tells whether options may follow operands. -/
def parse (specs : List OptionSpec) (mixed : Bool) :
    (waiting? : Option Text) → List Text → Except UsageError GivenWords
  | none, [] => .ok ⟨[], []⟩
  | some name, [] => .error (.missingValue name)
  | some name, v :: words => (parse specs mixed none words).map (prepend [⟨name, some v⟩])
  | none, word :: words =>
    if word = ("--" : Text) then .ok ⟨[], words⟩
    else if OptionSpec.isOptionWord word then do
      let (found, waiting) ← OptionSpec.ofWord specs word
      (parse specs mixed waiting words).map (prepend found)
    else if mixed then
      (parse specs mixed none words).map fun w => { w with operands := word :: w.operands }
    else .ok ⟨[], word :: words⟩

def has (w : GivenWords) (name : Text) : Bool := w.options.any (·.name = name)

/-- The last value that an option was given. -/
def value? (w : GivenWords) (name : Text) : Option Text :=
  ((w.options.reverse.find? (·.name = name)).bind (·.value?))

end GivenWords

end SourceGrade
