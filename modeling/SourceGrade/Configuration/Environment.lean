import SourceGrade.Configuration.Error
import SourceGrade.Number.Reading
import SourceGrade.Text.Case
/-!
# Settings from environment variables

Each field but the thresholds has a variable, named by a fixed beginning and the field in capitals.
-/

namespace SourceGrade

/-- The beginning of the names of all variables. -/
def variableStart : Text := "QUALITY_INSIGHT_"

namespace ConfigurationField

def variableName (f : ConfigurationField) : Text := variableStart ++ Text.upper f.name

end ConfigurationField

namespace VariableForm

def trueWords : List Text := ["true", "1", "yes", "on"]

def falseWords : List Text := ["false", "0", "no", "off"]

/-- The setting that a variable gives. -/
def read (value : Text) : VariableForm → Except VariableFault Setting
  | flag =>
    if trueWords.contains (Text.lower value) then .ok (.flag true)
    else if falseWords.contains (Text.lower value) then .ok (.flag false)
    else .error .noFlag
  | whole =>
    match Reading.tooManyDigits? value, Reading.int? value with
    | some count, _ => .error (.tooManyDigits count)
    | none, some n => .ok (.whole n)
    | none, none => .error .noWhole
  | real =>
    match Reading.float? value with
    | some x => .ok (.real x)
    | none => .error .noReal
  | text => .ok (.text value)

end VariableForm

/-- The settings that some fields get from variables, up to the first that is refused. -/
def environmentSettings (environment : List (Text × Text)) :
    List ConfigurationField → Except ConfigurationError (List (Text × Setting))
  | [] => .ok []
  | f :: fs =>
    match environment.lookup f.variableName with
    | none => environmentSettings environment fs
    | some value =>
      match f.form.read value with
      | .error fault => .error (.variable_ f.variableName value fault)
      | .ok setting => (environmentSettings environment fs).map ((f.name, setting) :: ·)

end SourceGrade
