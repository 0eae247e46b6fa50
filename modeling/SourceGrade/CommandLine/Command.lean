import SourceGrade.CommandLine.Files
import SourceGrade.CommandLine.Options
/-!
# Commands

What the program can be asked to do, and how a command line asks for it.
-/

namespace SourceGrade

/-- What an analysis is asked for on the command line. -/
structure AnalysisRequest where
  /-- The path of the source, or a dash for the input. -/
  path : Text
  language : Text
  format : Text
  output? : Option Text
  config? : Option Text
  failOn? : Option Text
  feedback : Bool
  parallel : Bool
  useCache : Bool
  verbose : Bool
  quiet : Bool
  deriving DecidableEq, Repr

inductive Command where
  | version
  | help
  | languages
  | cacheInfo (config? : Option Text) (clear : Bool)
  | analyze (request : AnalysisRequest)
  deriving DecidableEq, Repr

namespace Command

def helpOption : OptionSpec := { name := "--help" }

def versionOption : OptionSpec := { name := "--version" }

def configOption : OptionSpec := { name := "--config", letter? := some 'c', takesValue := true }

def analyzeOptions : List OptionSpec :=
  [{ name := "--language", letter? := some 'l', takesValue := true },
    { name := "--format", letter? := some 'f', takesValue := true },
    { name := "--output", letter? := some 'o', takesValue := true },
    configOption,
    { name := "--fail-on", takesValue := true },
    { name := "--feedback" },
    { name := "--parallel" },
    { name := "--cache" },
    { name := "--verbose", letter? := some 'v' },
    { name := "--quiet", letter? := some 'q' },
    helpOption]

def cacheInfoOptions : List OptionSpec := [configOption, { name := "--clear" }, helpOption]

/-- Refuses operands. -/
def noOperands : List Text → Except UsageError Unit
  | [] => .ok ()
  | word :: _ => .error (.extraOperand word)

/-- The request for an analysis in the words after its name. -/
def parseAnalyze (words : List Text) : Except UsageError Command := do
  let w ← GivenWords.parse analyzeOptions true none words
  if w.has "--help" then return .help
  match w.operands with
  | [] => .error .missingOperand
  | path :: others =>
    noOperands others
    return .analyze
      { path := path
        language := (w.value? "--language").getD "auto"
        format := (w.value? "--format").getD "rich"
        output? := w.value? "--output"
        config? := w.value? "--config"
        failOn? := w.value? "--fail-on"
        feedback := w.has "--feedback"
        parallel := w.has "--parallel"
        useCache := w.has "--cache"
        verbose := w.has "--verbose"
        quiet := w.has "--quiet" }

def parseLanguages (words : List Text) : Except UsageError Command := do
  let w ← GivenWords.parse [helpOption] true none words
  if w.has "--help" then return .help
  noOperands w.operands
  return .languages

def parseCacheInfo (words : List Text) : Except UsageError Command := do
  let w ← GivenWords.parse cacheInfoOptions true none words
  if w.has "--help" then return .help
  noOperands w.operands
  return .cacheInfo (w.value? "--config") (w.has "--clear")

/-- The command of a command line. -/
def parse (words : List Text) : Except UsageError Command := do
  let w ← GivenWords.parse [versionOption, helpOption] false none words
  match w.options with
  | o :: _ => return if o.name = versionOption.name then .version else .help
  | [] =>
    match w.operands with
    | [] => .error .missingCommand
    | name :: words =>
      if name = ("analyze" : Text) then parseAnalyze words
      else if name = ("languages" : Text) then parseLanguages words
      else if name = ("cache-info" : Text) then parseCacheInfo words
      else .error (.unknownCommand name)

/-- Refuses a path for settings at which there is no file. -/
def checkConfig (files : FileTree) : Option Text → Except UsageError Unit
  | none => .ok ()
  | some path =>
    match files.entry path with
    | .file _ => if Text.endsWith "/" path then .error (.unusablePath path) else .ok ()
    | _ => .error (.unusablePath path)

/-- Refuses a path for output that is a directory. -/
def checkOutput (files : FileTree) : Option Text → Except UsageError Unit
  | none => .ok ()
  | some path =>
    if path ≠ [] && files.entry path = .directory then .error (.unusablePath path) else .ok ()

/-- Refuses the paths of a command that it cannot use. -/
def check (files : FileTree) : Command → Except UsageError Unit
  | cacheInfo config? _ => checkConfig files config?
  | analyze request => do
    checkOutput files request.output?
    checkConfig files request.config?
  | _ => .ok ()

end Command

end SourceGrade
