import SourceGrade.Issue.Basic
import SourceGrade.Issue.Normalize
import SourceGrade.Cache.Normalization
import SourceGrade.Listing
import SourceGrade.Listing.Sorting
import SourceGrade.Scoring.Bounds
import SourceGrade.Thresholds.Basic
/-!
# Aggregation of issues

Issues of one category, one normalized description and one criticality form a group. A group costs
the weight of its highest severity, more for its size, less for the code around its issues. The cost
of all groups is compressed beyond a knee.
-/

namespace SourceGrade

variable {ι α : Type} [Scalar α]

namespace Thresholds

/-- The points that an issue of a severity costs. -/
def weight (t : Thresholds ι α) : Severity → α
  | .minor => t.weightMinor
  | .major => t.weightMajor
  | .critical => t.weightCritical
  | .blocker => t.weightBlocker

/-- The discount for a tag of the code around an issue. -/
def tagFactor? (t : Thresholds ι α) (tag : Text) : Option α :=
  if tag = ("test" : Text) then some t.testCodeFactor
  else if tag = ("try" : Text) then some t.errorHandlingFactor
  else if tag = ("util" : Text) then some t.utilityCodeFactor
  else none

end Thresholds

/-- Issues that count as one problem, with what they cost together. -/
structure IssueGroup (α : Type) where
  category : Category
  normalized : Text
  isCritical : Bool
  first : Issue
  others : List Issue
  severity : Severity
  deduction : α

namespace IssueGroup

def issues (g : IssueGroup α) : List Issue := g.first :: g.others

def count (g : IssueGroup α) : Nat := g.issues.length

/-- The description of the first issue, with the number of issues when there are more. -/
def summary (g : IssueGroup α) : Text :=
  if 1 < g.count then g.first.description ++ " (x" ++ Text.ofNat g.count ++ ")"
  else g.first.description

/-- The line by which a group is placed among groups of the same cost. -/
def sortLine (g : IssueGroup α) : Int := g.first.line?.getD 0

/-- The costlier group comes before the other, and of two that cost the same the one with the
smaller line. -/
def comesBefore (g h : IssueGroup α) : Bool :=
  if Scalar.eq g.deduction h.deduction then g.sortLine < h.sortLine
  else Scalar.lt h.deduction g.deduction

end IssueGroup

/-- The groups of a family, and what they cost before and after compression. -/
structure Aggregation (α : Type) where
  groups : List (IssueGroup α)
  rawDeduction : α
  deduction : α

namespace Aggregation

def issueCount (a : Aggregation α) : Nat := Listing.total (a.groups.map (·.count))

/-- The categories of the groups, each once, the costliest first. -/
def categories (a : Aggregation α) : List Category :=
  Listing.distinct (a.groups.map (·.category))

end Aggregation

/-- The discount of one issue for the code around it: the greatest of its tags. -/
def issueFactor (t : Thresholds ι α) (i : Issue) : α :=
  (i.context.filterMap t.tagFactor?).foldl Scalar.min (Scalar.ofInt 1)

/-- The mean discount of some issues for the code around them, and a further one for repeats. -/
def contextFactor (t : Thresholds ι α) (issues : List Issue) : α :=
  match issues with
  | [] => Scalar.ofInt 1
  | [i] => Scalar.mean [issueFactor t i]
  | issues => Scalar.mean (issues.map (issueFactor t)) * t.repeatedIssueFactor

/-- The mean discount of some issues for conditions on the way to them. Critical issues keep a
floor. -/
def pathFactor (t : Thresholds ι α) (issues : List Issue) (critical : Bool) : α :=
  match issues with
  | [] => Scalar.ofInt 1
  | issues =>
    let factor := Scalar.mean (issues.map fun i =>
      if i.context.contains ("conditional" : Text) then t.conditionalPathFactor
      else Scalar.ofInt 1)
    if critical then Scalar.max factor t.criticalPathFloor else factor

/-- The highest severity of a group and what the group costs. -/
def groupDeduction (t : Thresholds ι α) (first : Issue) (others : List Issue) (critical : Bool) :
    Severity × α :=
  let severity := first.severity.highest (others.map (·.severity))
  let issues := first :: others
  (severity,
    t.weight severity * (Scalar.ofInt 1 + Scalar.log2 (Scalar.ofNat issues.length)) *
      contextFactor t issues * pathFactor t issues critical)

/-- By what issues are grouped. -/
structure GroupKey where
  category : Category
  normalized : Text
  isCritical : Bool
  deriving DecidableEq, Repr

/-- Adds an issue at the end of the bucket of its key; a new key gets a bucket after all others. -/
def addToBucket (key : GroupKey) (i : Issue) :
    List (GroupKey × Issue × List Issue) → List (GroupKey × Issue × List Issue)
  | [] => [(key, i, [])]
  | (k, first, others) :: rest =>
    if k = key then (k, first, others ++ [i]) :: rest
    else (k, first, others) :: addToBucket key i rest

/-- Puts issues of a family into buckets, in their order, normalizing through a memory. -/
def bucketsFrom (family : List Category) (cache : NormalizationCache)
    (buckets : List (GroupKey × Issue × List Issue)) :
    List Issue → List (GroupKey × Issue × List Issue) × NormalizationCache
  | [] => (buckets, cache)
  | i :: is =>
    if family.contains i.category then
      let (normalized, cache) := cache.getOrCompute normalizeDescription i.description
      let key := ⟨i.category, normalized, i.severity.isCritical⟩
      bucketsFrom family cache (addToBucket key i buckets) is
    else bucketsFrom family cache buckets is

/-- The group of a bucket. -/
def groupOf (t : Thresholds ι α) (bucket : GroupKey × Issue × List Issue) : IssueGroup α :=
  let (key, first, others) := bucket
  let (severity, deduction) := groupDeduction t first others key.isCritical
  ⟨key.category, key.normalized, key.isCritical, first, others, severity, deduction⟩

/-- Groups with their costs added up and compressed. -/
def Aggregation.ofGroups (t : Thresholds ι α) (groups : List (IssueGroup α)) : Aggregation α :=
  let groups := Listing.sorted IssueGroup.comesBefore groups
  let raw := Scalar.sum (groups.map (·.deduction))
  ⟨groups, raw, Scalar.compressDeduction t.compressionKnee t.compressionScale raw⟩

/-- Aggregates the issues of a family, and the memory of normalized descriptions after that. -/
def aggregate (t : Thresholds ι α) (family : List Category) (cache : NormalizationCache)
    (issues : List Issue) : Aggregation α × NormalizationCache :=
  let (buckets, cache) := bucketsFrom family cache [] issues
  (.ofGroups t (buckets.map (groupOf t)), cache)

end SourceGrade
