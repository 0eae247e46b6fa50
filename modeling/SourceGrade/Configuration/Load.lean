import SourceGrade.Configuration.Environment
import SourceGrade.Toml.Reader
/-!
# Loading a configuration

Settings come from several sources: a file for all projects, a file of the project, a file named
explicitly, the environment, and the caller. A later source takes precedence over an earlier one,
field by field; the thresholds are one field, which is taken as a whole from one source. The
environment never gives thresholds.
-/

namespace SourceGrade

/-- What is found where a settings file may be. -/
inductive SettingsFile where
  | missing
  | unreadable
  /-- The path is too long for any file. -/
  | unnameable
  | content (bytes : List UInt8)
  deriving DecidableEq, Repr

/-- Where settings come from, the least preferred source first. -/
structure SettingSources where
  global : SettingsFile
  project : SettingsFile
  /-- A file that has to be there, with its path. -/
  explicit? : Option (Text × SettingsFile)
  environment : List (Text × Text)
  overrides : List (Text × Setting)
  /-- Thresholds that the caller has made before, in the place of a table of them. -/
  thresholds? : Option {t : Thresholds Setting Setting // t.validate = .ok ()} := none

namespace SettingSources

/-- The path of the file for all projects and of the file of the project. -/
def globalPath : Text := ".quality-insight.toml"

def projectPath : Text := "quality-insight.toml"

/-- The settings of a file that is there. -/
def readContent (path : Text) (bytes : List UInt8) :
    Except ConfigurationError (List (Text × Setting)) :=
  match Utf8.decode bytes with
  | .error e => .error (.undecodableFile e)
  | .ok t =>
    match Toml.read t with
    | .ok members => .ok members
    | .error .malformed => .error (.unreadableFile path)
    | .error (.tooManyDigits count) => .error (.tooManyDigits count)
    | .error (.tooDeep _) => .error .tooDeep

/-- The settings of a file that may be missing. -/
def readOptional (path : Text) : SettingsFile → Except ConfigurationError (List (Text × Setting))
  | .missing => .ok []
  | .unreadable => .error (.unreadableFile path)
  | .unnameable => .error (.pathTooLong path)
  | .content bytes => readContent path bytes

/-- The settings of a file that has to be there, if one is named. -/
def readExplicit : Option (Text × SettingsFile) → Except ConfigurationError (List (Text × Setting))
  | none => .ok []
  | some (path, .missing) => .error (.missingFile path)
  | some (path, .unreadable) => .error (.unreadableFile path)
  | some (path, .unnameable) => .error (.pathTooLong path)
  | some (path, .content bytes) => readContent path bytes

/-- A flag among the caller's settings stands for a verbosity when it is true, and for nothing when
it is not. -/
def expandFlag (name verbosity : Text) (overrides : List (Text × Setting)) :
    List (Text × Setting) :=
  match overrides.lookup name with
  | none => overrides
  | some s =>
    (if s.isNothing then overrides
    else Toml.setMember "verbosity" (.text verbosity) overrides).filter fun (n, _) => n ≠ name

/-- The caller's settings. Of two flags the one for quiet counts. -/
def callerSettings (overrides : List (Text × Setting)) : List (Text × Setting) :=
  expandFlag "quiet" "quiet" (expandFlag "verbose" "verbose" overrides)

/-- The settings of every source, the least preferred first. -/
def layers (s : SettingSources) : Except ConfigurationError (List (List (Text × Setting))) := do
  let global ← readOptional globalPath s.global
  let project ← readOptional projectPath s.project
  let explicit ← readExplicit s.explicit?
  let environment ← environmentSettings s.environment ConfigurationField.all
  return [global, project, explicit, environment, callerSettings s.overrides]

end SettingSources

/-- All settings of some layers; a name keeps the place of its first setting and gets the value of
its last. -/
def mergeLayers (layers : List (List (Text × Setting))) : List (Text × Setting) :=
  layers.foldl (fun merged layer => layer.foldl (fun m (name, v) => Toml.setMember name v m) merged)
    []

namespace Thresholds

/-- Sets the fields of a table one after the other. -/
def setFields (t : Thresholds Setting Setting) :
    List (Text × Setting) → Except ThresholdTableError (Thresholds Setting Setting)
  | [] => .ok t
  | (name, v) :: rest =>
    match ThresholdField.find? name with
    | none => .error (.unknownField ⟨name⟩)
    | some (.whole _ _ set) => setFields (set v t) rest
    | some (.real _ _ set) => setFields (set v t) rest

/-- The thresholds of a table; fields that it does not name have their defaults. -/
def ofTable (members : List (Text × Setting)) :
    Except ThresholdTableError (Thresholds Setting Setting) := do
  let t ← setFields defaultSettings members
  match t.validate with
  | .ok () => return t
  | .error e => .error (.refused e)

end Thresholds

namespace Configuration

/-- The thresholds among some settings. What is no table gives the defaults. -/
def thresholdsOf (merged : List (Text × Setting)) :
    Except ConfigurationError (Thresholds Setting Setting) :=
  match merged.lookup thresholdsName with
  | some (.table members) => (Thresholds.ofTable members).mapError .thresholds
  | _ => .ok Thresholds.defaultSettings

/-- The names of verbosities. -/
def verbosities : List Text := ["quiet", "normal", "verbose"]

/-- Whether a setting is one of some texts. -/
def isOneOf (texts : List Text) : Setting → Bool
  | .text t => texts.contains t
  | _ => false

/-- A rule that is broken when a comparison holds. -/
def refuseWhen (rule : ConfigurationRule) (check : Except Incomparable Bool) :
    Except ConfigurationError Unit :=
  match check with
  | .ok true => .error (.broken rule)
  | .ok false => .ok ()
  | .error e => .error (.incomparable e)

open Comparable in
/-- Checks a configuration, one rule after the other. -/
def validate (c : Configuration) : Except ConfigurationError Unit := do
  match c.workers with
  | .absent => pure ()
  | workers => refuseWhen .workersMinimum (compare .lt workers (whole 1))
  refuseWhen .ttlSign (compare .lt c.cacheTtlHours (whole 0))
  refuseWhen .verbosityName (.ok (!isOneOf verbosities c.verbosity))
  refuseWhen .timeoutSign (compare .le c.llmTimeoutSeconds (whole 0))

/-- The configuration of some settings with given thresholds. -/
def ofSettings (merged : List (Text × Setting)) (thresholds : Thresholds Setting Setting) :
    Configuration :=
  ConfigurationField.all.foldl
    (fun c f => match merged.lookup f.name with
      | some v => f.set v c
      | none => c)
    { default with thresholds := thresholds }

/-- The first name among some settings that is no field. -/
def unknownName? (merged : List (Text × Setting)) : Option Text :=
  (merged.map (·.1)).find? fun name =>
    name ≠ thresholdsName && (ConfigurationField.find? name).isNone

/-- The thresholds that the caller has made before, or else those among some settings. -/
def chosenThresholds (s : SettingSources) (merged : List (Text × Setting)) :
    Except ConfigurationError (Thresholds Setting Setting) :=
  match s.thresholds? with
  | some made => .ok made.val
  | none => thresholdsOf merged

/-- The configuration that some sources give. -/
def load (s : SettingSources) : Except ConfigurationError Configuration := do
  let merged := mergeLayers (← s.layers)
  let thresholds ← chosenThresholds s merged
  match unknownName? merged with
  | some name => .error (.unknownField ⟨name⟩)
  | none =>
    let c := ofSettings merged thresholds
    validate c
    return c

end Configuration

end SourceGrade
