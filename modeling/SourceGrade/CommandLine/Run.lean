import SourceGrade.Analysis.Basic
import SourceGrade.CommandLine.Command
import SourceGrade.CommandLine.Logging
import SourceGrade.Configuration.Load
import SourceGrade.Configuration.Active
import SourceGrade.Display.Cell
import SourceGrade.Display.Format
import SourceGrade.Feedback.Narrative
import SourceGrade.Setting.Number
/-!
# Carrying out commands

A command sees files, environment variables and an input, and it leaves an exit code, an output,
perhaps a written file, and a log level. Messages on the console are in markup.
-/

namespace SourceGrade

/-- What a command can see. -/
structure Surroundings where
  home : FileTree
  working : FileTree
  environment : List (Text × Text)
  input : List UInt8

/-- What a command leaves. -/
structure Outcome where
  exitCode : Nat
  output : Text := []
  /-- A file to be written, with its content. -/
  written? : Option (Text × Text) := none
  /-- The log level, once it is set. -/
  level? : Option Nat := none
  deriving DecidableEq, Repr

namespace Outcome

/-- The outcome of a command line that is refused. -/
def usage (level? : Option Nat) : Outcome := { exitCode := 2, level? := level? }

/-- The outcome of a command that breaks off after some output. -/
def broken (output : Text) (level? : Option Nat) : Outcome :=
  { exitCode := 1, output := output, level? := level? }

end Outcome

namespace Console

/-- Controls that a terminal would act on. -/
def isControl (c : Char) : Bool :=
  c == '\x07' || c == '\x08' || c == '\x0b' || c == '\x0c' || c == '\r'

/-- The width of a tab on the console. -/
def tabWidth : Nat := 8

/-- A line of plain text on the console. -/
def plainLine (t : Text) : Text :=
  Cell.widenTabs tabWidth 0 (t.filter fun c => !isControl c) ++ ['\n']

/-- A line of text with names of emoji on the console. -/
def emojiLine (t : Text) : Text := plainLine (Emoji.replaceCodes t)

/-- A line of text with markup on the console; none when the markup is in error. -/
def line? (t : Text) : Option Text := (Markup.plain? t).map plainLine

/-- Lines with markup on the console up to the first whose markup is in error, and whether these are
all. -/
def linesUntilError : List Text → Text × Bool
  | [] => ([], true)
  | t :: ts =>
    match line? t with
    | some shown =>
      let (more, complete) := linesUntilError ts
      (shown ++ more, complete)
    | none => ([], false)

/-- A display piece in plain lines. -/
def pieceLines (p : DisplayPiece) : Text :=
  let plain (t : Text) : Text := (Markup.plain? t).getD t
  match p with
  | .panel title body => plainLine (plain title) ++ plainLine (plain body)
  | .table title caption? _ rows =>
    plainLine (plain title) ++
      (rows.flatMap fun row => plainLine (Text.join "  " (row.map plain))) ++
      (caption?.map plainLine).getD []
  | .text t => plainLine (plain t)

end Console

namespace Command

/-- The name and version of the program. -/
def versionLine : Text := "[bold cyan]Quality Insight[/bold cyan] version [green]0.1.0[/green]"

/-- How the program is used. -/
def usageText : Text := "Usage: quality-insight [--version] [--help] COMMAND [ARGS]...\n"

/-- A command that ends with an error message on the console. -/
def failed (level? : Option Nat) (message : Text) : Outcome :=
  .broken ((Console.line? ("[red]Error:[/red] " ++ message)).getD []) level?

/-- A language with its aliases on one line. -/
def languageLine (l : Language) : Text :=
  "[bold]" ++ l.name ++ "[/bold]  [dim]" ++
    Text.join ", " (l.aliases.filter fun a => !a.isEmpty) ++ "[/dim]"

def runLanguages : Outcome :=
  { exitCode := 0
    output := Language.sorted.flatMap fun l => (Console.line? (languageLine l)).getD [] }

/-- A file as a place for settings. -/
def settingsFile : FileEntry → SettingsFile
  | .missing => .missing
  | .unnameable => .unnameable
  | .directory => .unreadable
  | .file bytes => .content bytes

/-- The configuration of a command. -/
def loadConfiguration (s : Surroundings) (config? : Option Text)
    (overrides : List (Text × Setting)) : Except ConfigurationError Configuration :=
  Configuration.load
    { global := settingsFile (s.home.entry SettingSources.globalPath)
      project := settingsFile (s.working.entry SettingSources.projectPath)
      explicit? := config?.map fun path =>
        (Path.normalize path, settingsFile (s.working.entry path))
      environment := s.environment
      overrides := overrides }

/-- The outcome of a refused configuration. A file that is no text, or that holds too long a number
or too deeply nested values, breaks the command off without a message. -/
def refused : ConfigurationError → Outcome
  | .undecodableFile _ => .broken [] none
  | .tooManyDigits _ => .broken [] none
  | .tooDeep => .broken [] none
  | e => failed none e.message

def runCacheInfo (s : Surroundings) (config? : Option Text) (clear : Bool) : Outcome :=
  match loadConfiguration s config? [] with
  | .error e => refused e
  | .ok c =>
    let lines : List Text :=
      (if clear then [("[yellow]Cache cleared[/yellow]" : Text)] else []) ++
        [("[bold cyan]Quality Insight Cache Info[/bold cyan]" : Text),
          ("Directory: [blue]" : Text) ++ Path.expandVariables s.environment c.cacheDir.shown ++
            "[/blue]",
          "Entries: [yellow]0[/yellow]"]
    let (shown, complete) := Console.linesUntilError lines
    if complete then { exitCode := 0, output := shown } else .broken shown none

/-- The settings that flags stand for. -/
def overridesOf (r : AnalysisRequest) : List (Text × Setting) :=
  ([("parallel_detectors", r.parallel), ("cache_enabled", r.useCache), ("verbose", r.verbose),
      ("quiet", r.quiet)] : List (Text × Bool)).filterMap
    fun (name, given) => if given then some (name, .flag true) else none

/-- The formats in the order in which a message names them. -/
def formatNames : List Text := ["rich", "json", "quiet"]

/-- The verbosity that a setting names. -/
def verbosityOf : Setting → Verbosity
  | .text t =>
    .ofFlags (t == ("verbose" : Text)) (t == ("quiet" : Text))
  | _ => .normal

/-- What a source is found to be. -/
inductive SourceText where
  | text (t : Text)
  | noFile
  /-- The input is no text, or the path is too long for any file. -/
  | unreadable

/-- The text at a path, or the input for a dash. -/
def readSource (s : Surroundings) (path : Text) : SourceText :=
  if path = ("-" : Text) then
    match Utf8.decode s.input with
    | .ok t => .text t
    | .error _ => .unreadable
  else
    match s.working.entry path with
    | .file bytes => .text (Utf8.decodeLenient bytes)
    | .unnameable => .unreadable
    | _ => .noFile

/-- The language tag of a source: the one given, or the ending of its path. -/
def tagFor (path language : Text) : Text :=
  if language ≠ ("auto" : Text) then language
  else if path = ("-" : Text) then "generic"
  else
    match Text.lower ((Path.suffix path).dropWhile (· == '.')) with
    | [] => "generic"
    | tag => tag

/-- The report as it is written to a file. -/
def fileText (f : ReportFormat) (r : Report Amount) (source : Text) (extra : List (Text × Json)) :
    Text :=
  match f with
  | .json => r.jsonText source extra
  | .quiet => r.quietLine source
  | .rich => (r.pieces source 30).flatMap Console.pieceLines

/-- The report as it is shown on the console. -/
def shownText (f : ReportFormat) (r : Report Amount) (source : Text) (extra : List (Text × Json)) :
    Text :=
  match f with
  | .rich => fileText .rich r source extra
  | f => fileText f r source extra ++ ['\n']

/-- A review on the console. -/
def narrativeText (n : Narrative) : Text :=
  Console.plainLine "Reviewer feedback:" ++ Console.emojiLine n.suggestions.visible ++
    n.bestPractices.flatMap fun p => Console.emojiLine ("  - " ++ p.visible)

/-- The worst of the ratings of a report. -/
def worstGrade (r : Report Amount) : Grade :=
  [r.maintainability.grade, r.reliability.grade].foldl
    (fun worst g => if worst.rank < g.rank then g else worst) r.complexity.grade

/-- Shows a report, writes it, and compares its grades with the grade to fail on. -/
def present (s : Surroundings) (q : AnalysisRequest) (f : ReportFormat) (failOn? : Option Grade)
    (level : Nat) (r : Report Amount) (narrative? : Option Narrative) : Outcome :=
  let source : Text := if q.path = ("-" : Text) then "<stdin>" else q.path
  let extra : List (Text × Json) :=
    match narrative? with
    | some n => [("feedback", n.toJson)]
    | none => []
  let shown := shownText f r source extra
  let written? := q.output?.map fun path => (Path.normalize path, fileText f r source extra)
  if q.output?.any fun path => !s.working.isWritable path then .broken shown (some level)
  else
    let shown := shown ++
      (match narrative? with
      | some n => if f = .json then [] else narrativeText n
      | none => [])
    let worst := worstGrade r
    match failOn?.filter fun limit => limit.rank ≤ worst.rank with
    | some limit =>
      { exitCode := 1
        output := shown ++
          (if f = .rich then
            "\n" ++ Console.plainLine
              ("FAIL: worst grade " ++ worst.name ++ " reaches " ++ limit.name)
          else [])
        written? := written?
        level? := some level }
    | none => { exitCode := 0, output := shown, written? := written?, level? := some level }

/-- Analyzes a source with a configuration. -/
def analyzeWithConfiguration (s : Surroundings) (q : AnalysisRequest) (f : ReportFormat)
    (failOn? : Option Grade) (c : Configuration) : Outcome :=
  let level := (verbosityOf c.verbosity).level
  match readSource s q.path with
  | .noFile => .usage (some level)
  | .unreadable => .broken [] (some level)
  | .text t =>
    match SourceGrade.analyze c.activeThresholds (tagFor q.path q.language) t with
    | .error _ => .broken [] (some level)
    | .ok r =>
      if q.feedback then
        match (Narrative.request .unreachable t r).1 with
        | .ok narrative => present s q f failOn? level r (some narrative)
        | .error _ => .broken [] (some level)
      else present s q f failOn? level r none

/-- All grades, the best first. -/
def grades : List Grade := [.a, .b, .c, .d]

def runAnalyze (s : Surroundings) (q : AnalysisRequest) : Outcome :=
  if q.verbose && q.quiet then failed none "--verbose and --quiet are mutually exclusive"
  else
    match ReportFormat.find? q.format with
    | none => failed none ("--format must be one of: " ++ Text.join ", " formatNames)
    | some f =>
      let failOn? := q.failOn?.map fun t => grades.find? (·.name = Text.upper t)
      if failOn? = some none then failed none "--fail-on must be one of: A, B, C, D"
      else
        match loadConfiguration s q.config? (overridesOf q) with
        | .error e => refused e
        | .ok c => analyzeWithConfiguration s q f failOn?.join c

/-- Carries out a command. -/
def run (s : Surroundings) : Command → Outcome
  | version => { exitCode := 0, output := (Console.line? versionLine).getD [] }
  | help => { exitCode := 0, output := usageText }
  | languages => runLanguages
  | cacheInfo config? clear => runCacheInfo s config? clear
  | analyze request => runAnalyze s request

end Command

/-- What a command line leaves. -/
def runCommandLine (s : Surroundings) (words : List Text) : Outcome :=
  match Command.parse words with
  | .error _ => .usage none
  | .ok command =>
    match command.check s.working with
    | .error _ => .usage none
    | .ok () => command.run s

end SourceGrade
