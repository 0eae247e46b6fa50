import SourceGrade.Analysis.Pool
import SourceGrade.Cache.Report
import SourceGrade.Configuration.Active
/-!
# Sessions

A session analyzes one text after another and keeps two memories: one of finished reports, and one
of normalized descriptions. Both can be cleared at any time.
-/

namespace SourceGrade

/-- What an analysis is about, as far as its report is stored by it. -/
@[ext]
structure Subject where
  text : CodePoints
  language : Text
  /-- The thresholds in writing. -/
  thresholds : Text
  deriving DecidableEq, Repr

namespace Subject

def ofRequest (tag : Text) (text : CodePoints) (t : ActiveThresholds) : Subject :=
  ⟨text, (Language.resolve tag).name, configurationLine t.toJson⟩

def key (s : Subject) : ReportKey := ⟨s.text, s.language, shortDigest s.thresholds⟩

end Subject

/-- What a session remembers: reports by the digests of their keys, and normalized descriptions. -/
structure Session where
  reports : ExpiringCache Text (Report Amount)
  norms : NormalizationCache

/-- What a session is asked to do. -/
inductive SessionStep where
  | analyze (tag : Text) (text : CodePoints) (thresholds : ActiveThresholds)
  /-- An analysis whose detectors run side by side and finish in some order. -/
  | analyzeParallel (tag : Text) (text : CodePoints) (thresholds : ActiveThresholds)
    (schedule : Schedule)
  | clearReports
  | clearNorms

namespace Session

def start (enabled : Bool) : Session := ⟨.create enabled .lasting, .empty⟩

/-- Analyzes a text, or finds the report of an earlier analysis. Thresholds that cannot be written
have no key, whether or not reports are stored. -/
def analyze (s : Session) (tag : Text) (text : CodePoints) (t : ActiveThresholds)
    (schedule : Schedule) : Except AnalysisError (Report Amount) × Session :=
  if t.toJson.isWritable then
    let key := (Subject.ofRequest tag text t).key.digest
    match s.reports.find? key with
    | some report => (.ok report, s)
    | none =>
      let language := Language.resolve tag
      match analyzeScheduled t schedule s.norms language text.legible with
      | .error e =>
        (.error e, { s with norms := normsAfter t schedule s.norms language text.legible })
      | .ok (report, norms) => (.ok report, ⟨s.reports.insert key report, norms⟩)
  else (.error (.rating (.overflow .digits)), s)

/-- Carries out a step; an analysis answers with a report or an error. -/
def run (s : Session) : SessionStep → Option (Except AnalysisError (Report Amount)) × Session
  | .analyze tag text t =>
    let (answer, s) := s.analyze tag text t .sequential
    (some answer, s)
  | .analyzeParallel tag text t schedule =>
    let (answer, s) := s.analyze tag text t schedule
    (some answer, s)
  | .clearReports => (none, { s with reports := s.reports.clear })
  | .clearNorms => (none, { s with norms := .empty })

/-- Carries out some steps, with the answer to each. -/
def runAll (s : Session) :
    List SessionStep → List (Option (Except AnalysisError (Report Amount))) × Session
  | [] => ([], s)
  | step :: steps =>
    let (answer, s) := s.run step
    let (answers, s) := runAll s steps
    (answer :: answers, s)

end Session

end SourceGrade
