import SourceGrade.Configuration.Basic
import SourceGrade.Number.Reading
import SourceGrade.Text.Quoted
import SourceGrade.Text.Utf8
import SourceGrade.Thresholds.Validation
/-!
# Refused configurations
-/

namespace SourceGrade

/-- Why the value of an environment variable is refused. -/
inductive VariableFault where
  | noFlag | noWhole | noReal
  | tooManyDigits (count : Nat)
  deriving DecidableEq, Repr

namespace VariableFault

/-- The characters that are shown at most of a quoted value that is no whole number. -/
def shownWidth : Nat := 200

def message (value : Text) : VariableFault → Text
  | noFlag => "expected true/false, got '" ++ value ++ "'"
  | noWhole =>
    "invalid literal for int() with base 10: " ++ (Text.quoted value).take shownWidth
  | noReal => "could not convert string to float: " ++ Text.quoted value
  | tooManyDigits count => Reading.tooManyDigitsMessage count

end VariableFault

/-- The rules that a configuration can break. -/
inductive ConfigurationRule where
  | workersMinimum | ttlSign | verbosityName | timeoutSign
  deriving DecidableEq, Repr

namespace ConfigurationRule

def message : ConfigurationRule → Text
  | workersMinimum => "workers must be at least 1"
  | ttlSign => "cache_ttl_hours must be non-negative"
  | verbosityName => "verbosity must be one of quiet, normal, verbose"
  | timeoutSign => "llm_timeout_seconds must be positive"

end ConfigurationRule

/-- A name that is no field of a table. -/
structure UnknownField where
  name : Text
  deriving DecidableEq, Repr

namespace UnknownField

/-- A name that no field can have, because it stands for the table itself. -/
def reserved : Text := "self"

/-- The refusal of a name in the table that a maker builds. -/
def message (maker : Text) (e : UnknownField) : Text :=
  maker ++ ".__init__() got " ++
    (if e.name = reserved then ("multiple values for argument '" : Text)
    else "an unexpected keyword argument '") ++ e.name ++ "'"

end UnknownField

/-- Why a table of settings is no table of thresholds. -/
inductive ThresholdTableError where
  | unknownField (e : UnknownField)
  | refused (e : ThresholdError)
  deriving DecidableEq, Repr

namespace ThresholdTableError

def message : ThresholdTableError → Text
  | unknownField e => e.message "ThresholdConfig"
  | refused e => e.message

end ThresholdTableError

/-- Why there is no configuration. -/
inductive ConfigurationError where
  | missingFile (path : Text)
  | unreadableFile (path : Text)
  /-- A path that is too long for any file. -/
  | pathTooLong (path : Text)
  | undecodableFile (e : Utf8.DecodeError)
  /-- A whole number in a file has too many digits. -/
  | tooManyDigits (count : Nat)
  /-- The values in a file are nested too deeply. -/
  | tooDeep
  | variable_ (key value : Text) (fault : VariableFault)
  | thresholds (e : ThresholdTableError)
  | unknownField (e : UnknownField)
  | broken (rule : ConfigurationRule)
  | incomparable (e : Incomparable)
  deriving DecidableEq, Repr

namespace ConfigurationError

def message : ConfigurationError → Text
  | missingFile path =>
    "Invalid config file: " ++ path ++ " (path=" ++ path ++ ", reason=file not found)"
  | unreadableFile path => "Invalid config file: " ++ path
  | pathTooLong path => "[Errno 36] File name too long: " ++ Text.quoted path
  | undecodableFile e => e.message
  | tooManyDigits count => Reading.tooManyDigitsMessage count
  | tooDeep => "maximum recursion depth exceeded"
  | variable_ key value fault =>
    "Invalid configuration for " ++ key ++ ": " ++ value ++ " (key=" ++ key ++ ", value=" ++
      value ++ ", reason=" ++ fault.message value ++ ")"
  | thresholds e => "Invalid [thresholds] config: " ++ e.message
  | unknownField e => "Invalid configuration: " ++ e.message "AnalysisConfig"
  | broken rule => "Invalid configuration: " ++ rule.message
  | incomparable e => "Invalid configuration: " ++ e.message

end ConfigurationError

end SourceGrade
