import SourceGrade.Source.Basic
import SourceGrade.Number.Comparable
import SourceGrade.Scoring.Bounds
import SourceGrade.Listing
/-!
# Duplication

A window of significant lines is a duplicate when the same lines occur in a window before it that
does not overlap it. Lines in duplicates are counted once, and neighbouring ones form a block.
-/

namespace SourceGrade

/-- Neighbouring duplicated lines: where they first occur, where they occur again, and their
number. -/
structure DuplicateBlock where
  firstLine : Nat
  duplicateLine : Nat
  length : Nat
  deriving DecidableEq, Repr

/-- The duplicated lines of a unit. -/
structure Duplication where
  duplicatedLines : Nat
  totalLines : Nat
  blocks : List DuplicateBlock
  deriving DecidableEq, Repr

/-- Why a window cannot be moved over lines. -/
inductive WindowError where
  | fractional
  | incomparable (e : Incomparable)
  deriving DecidableEq, Repr

namespace WindowError

def message : WindowError → Text
  | fractional => "'float' object cannot be interpreted as an integer"
  | incomparable e => e.message

end WindowError

/-- A line that counts for duplication: its number, and its code with single spaces. -/
structure SignificantLine where
  number : Nat
  text : Text
  deriving DecidableEq, Repr

namespace Source

def significantLines (s : Source) : List SignificantLine :=
  s.codeLines.map fun l => ⟨l.number, Text.join " " (Text.words l.stripped)⟩

end Source

namespace Duplication

/-- The characters of a window, one more between neighbouring lines. -/
def windowLength (window : List Text) : Nat :=
  Listing.total (window.map (·.length)) + (window.length - 1)

/-- A window that repeats an earlier one, both given by their first positions. -/
structure Repeat where
  start : Nat
  earlier : Nat
  deriving DecidableEq, Repr

section

variable {ι : Type} [Comparable ι]

/-- The repeats among the windows of `width` lines, from a position on. `seen` holds the windows so
far with the first position of each. -/
def repeatsFrom (width : Nat) (minChars : ι) (seen : List (List Text × Nat)) (start : Nat) :
    List Text → List Repeat
  | [] => []
  | t :: ts =>
    let window := (t :: ts).take width
    if window.length < width then []
    else if Comparable.isBelow (windowLength window) minChars then
      repeatsFrom width minChars seen (start + 1) ts
    else
      match seen.lookup window with
      | none => repeatsFrom width minChars ((window, start) :: seen) (start + 1) ts
      | some earlier =>
        if start < earlier + width then repeatsFrom width minChars seen (start + 1) ts
        else ⟨start, earlier⟩ :: repeatsFrom width minChars seen (start + 1) ts

end

/-- Whether a position lies in a repeat. -/
def isMarked (width : Nat) (repeats : List Repeat) (i : Nat) : Bool :=
  repeats.any fun r => r.start ≤ i && i < r.start + width

/-- The maximal runs of neighbouring positions in an increasing list: their first positions and
their lengths. -/
def runs : List Nat → List (Nat × Nat)
  | [] => []
  | i :: is =>
    match runs is with
    | [] => [(i, 1)]
    | (first, length) :: rest =>
      if first = i + 1 then (i, length + 1) :: rest else (i, 1) :: (first, length) :: rest

/-- The number of a line by its position. -/
def numberAt (lines : List SignificantLine) (i : Nat) : Nat := ((lines[i]?).map (·.number)).getD 0

/-- The block of a run. It repeats the window that the repeat at its first position names. -/
def blockOf (lines : List SignificantLine) (repeats : List Repeat) (run : Nat × Nat) :
    DuplicateBlock :=
  let source := ((repeats.find? (·.start = run.1)).map (·.earlier)).getD run.1
  ⟨numberAt lines source, numberAt lines run.1, run.2⟩

section

variable {ι : Type}

def ofLines [Comparable ι] (width : Nat) (minChars : ι) (lines : List SignificantLine) :
    Duplication :=
  if lines.length < width * 2 then ⟨0, lines.length, []⟩
  else
    let repeats := repeatsFrom width minChars [] 0 (lines.map (·.text))
    let marked := (List.range lines.length).filter (isMarked width repeats)
    ⟨marked.length, lines.length, (runs marked).map (blockOf lines repeats)⟩

def ofSource [Comparable ι] (width : Nat) (minChars : ι) (s : Source) : Duplication :=
  ofLines width minChars s.significantLines

/-- The duplication for a window that may be no whole number of lines. Such a window cannot be moved
over lines, but it may be too wide for any repeat. -/
def ofWindow [Limit ι] (window minChars : ι) (s : Source) : Except WindowError Duplication :=
  match Limit.whole? window with
  | some width => .ok (ofSource width.toNat minChars s)
  | none =>
    let total := s.significantLines.length
    match Comparable.compare .lt (Comparable.whole total) (Limit.twice window) with
    | .ok true => .ok ⟨0, total, []⟩
    | .ok false => .error .fractional
    | .error e => .error (.incomparable e)

end

/-- Nothing is duplicated. -/
def nothing : Duplication := ⟨0, 0, []⟩

/-- The share of duplicated lines among the significant ones, in percent. -/
def percent {α : Type} [Scalar α] (d : Duplication) : α :=
  Scalar.safePercent (Scalar.ofNat d.duplicatedLines) (Scalar.ofNat d.totalLines)

end Duplication

end SourceGrade
