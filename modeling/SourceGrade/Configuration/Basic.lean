import SourceGrade.Setting.Basic
import SourceGrade.Thresholds.Fields
/-!
# Configuration

What an analysis can be configured with. Every field has a name, by which it is set in files and
from the command line, and perhaps a form in which environment variables give it. The values are
settings of any kind that the validation accepts.
-/

namespace SourceGrade

structure Configuration where
  thresholds : Thresholds Setting Setting
  parallelDetectors : Setting
  workers : Setting
  cacheEnabled : Setting
  cacheDir : Setting
  cacheTtlHours : Setting
  verbosity : Setting
  llmModel : Setting
  llmBaseUrl : Setting
  llmTimeoutSeconds : Setting

/-- The thresholds in use when none are given, as settings. -/
def Thresholds.defaultSettings : Thresholds Setting Setting :=
  defaultsOf .whole fun n d => .real (Binary.nearest n d)

namespace Configuration

def default : Configuration where
  thresholds := Thresholds.defaultSettings
  parallelDetectors := .flag false
  workers := .absent
  cacheEnabled := .flag false
  cacheDir := .text ".quality-insight-cache"
  cacheTtlHours := .whole 24
  verbosity := .text "normal"
  llmModel := .text "gpt-4o-mini"
  llmBaseUrl := .absent
  llmTimeoutSeconds := .real 30

end Configuration

/-- The forms of values in environment variables. -/
inductive VariableForm where
  | flag | whole | real | text
  deriving DecidableEq, Repr

/-- A field of the configuration other than the thresholds. -/
structure ConfigurationField where
  name : Text
  form : VariableForm
  get : Configuration → Setting
  set : Setting → Configuration → Configuration

namespace ConfigurationField

/-- All fields but the thresholds, in the order in which the environment is read. -/
def all : List ConfigurationField :=
  [⟨"parallel_detectors", .flag, (·.parallelDetectors),
      fun v c => { c with parallelDetectors := v }⟩,
    ⟨"workers", .whole, (·.workers), fun v c => { c with workers := v }⟩,
    ⟨"cache_enabled", .flag, (·.cacheEnabled), fun v c => { c with cacheEnabled := v }⟩,
    ⟨"cache_dir", .text, (·.cacheDir), fun v c => { c with cacheDir := v }⟩,
    ⟨"cache_ttl_hours", .whole, (·.cacheTtlHours), fun v c => { c with cacheTtlHours := v }⟩,
    ⟨"verbosity", .text, (·.verbosity), fun v c => { c with verbosity := v }⟩,
    ⟨"llm_model", .text, (·.llmModel), fun v c => { c with llmModel := v }⟩,
    ⟨"llm_base_url", .text, (·.llmBaseUrl), fun v c => { c with llmBaseUrl := v }⟩,
    ⟨"llm_timeout_seconds", .real, (·.llmTimeoutSeconds),
      fun v c => { c with llmTimeoutSeconds := v }⟩]

def find? (name : Text) : Option ConfigurationField := all.find? (·.name = name)

end ConfigurationField

/-- The name of the field that holds the thresholds. -/
def thresholdsName : Text := "thresholds"

end SourceGrade
