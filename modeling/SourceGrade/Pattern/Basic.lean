import SourceGrade.Text.Basic
import SourceGrade.Text.Letter
/-!
# Patterns of text

Patterns describe pieces of code. A match starts as far left as possible; of two alternatives the
first that leads to a match is taken, and a repetition takes as many rounds as it can. `Pattern.run`
decides what a pattern matches from a place in a text, by structural recursion on the pattern.
-/

namespace SourceGrade

/-- The parts of a match that are read off later. -/
inductive Slot where
  | name | parameters | optional | type | operator | divisor | receiver | index | offset
  | value | rest | keyword
  deriving DecidableEq, Repr

/-- A pattern of text. -/
inductive Pattern where
  /-- Matches the empty text. -/
  | empty
  /-- One character of a set. -/
  | one (accepts : Char → Bool)
  /-- One pattern after the other. -/
  | seq (p q : Pattern)
  /-- The first pattern, or else the second. -/
  | alt (p q : Pattern)
  /-- As many rounds as possible, none included. -/
  | many (p : Pattern)
  /-- A part that is read off later. -/
  | capture (slot : Slot) (p : Pattern)
  /-- What follows matches, and is not consumed. -/
  | ahead (p : Pattern)
  /-- What follows does not match. -/
  | notAhead (p : Pattern)
  /-- The characters before, nearest first, belong to these sets. -/
  | behind (sets : List (Char → Bool))
  /-- The characters before, nearest first, do not belong to these sets. -/
  | notBehind (sets : List (Char → Bool))
  /-- A word begins or ends here. -/
  | wordEdge
  /-- The beginning of the text. -/
  | start
  /-- The end of the text, or the line feed that ends it. -/
  | finish

/-- What a slot holds after a match: where it starts and stops, and what precedes its end, nearest
character first. -/
structure Capture where
  slot : Slot
  start : Nat
  stop : Nat
  before : Text
  deriving DecidableEq, Repr

/-- The text in a slot. -/
def Capture.text (c : Capture) : Text := (c.before.take (c.stop - c.start)).reverse

/-- A place in a text, with the slots filled on the way there, latest first. -/
structure Place where
  /-- What precedes the place, nearest character first. -/
  before : Text
  after : Text
  index : Nat
  captures : List Capture
  deriving DecidableEq, Repr

namespace Place

/-- The beginning of a text. -/
def ofText (t : Text) : Place := ⟨[], t, 0, []⟩

/-- Whether a word begins or ends at a place. -/
def atWordEdge (s : Place) : Bool :=
  (s.before.head?.any Text.isWordChar) != (s.after.head?.any Text.isWordChar)

/-- Whether the text ends at a place, up to one line feed. -/
def atFinish (s : Place) : Bool :=
  match s.after with
  | [] => true
  | ['\n'] => true
  | _ => false

end Place

/-- Whether the sets cover the beginning of a text, character by character. -/
def coversStart : List (Char → Bool) → Text → Bool
  | [], _ => true
  | _ :: _, [] => false
  | p :: ps, c :: r => p c && coversStart ps r

namespace Pattern

/-- Rounds of `step` before `next`, as many as possible. A round that consumes nothing ends the
repetition, so the text after the place bounds their number. -/
def rounds (step : Place → (Place → Option Place) → Option Place) (next : Place → Option Place) :
    (bound : Text) → Place → Option Place
  | [], s => next s
  | _ :: bound, s =>
    match step s fun s' => if s'.index = s.index then none else rounds step next bound s' with
    | some found => some found
    | none => next s

/-- The first way to match the pattern from a place that also lets `next` succeed. -/
def run : Pattern → Place → (next : Place → Option Place) → Option Place
  | .empty, s, next => next s
  | .one accepts, s, next =>
    match s.after with
    | [] => none
    | c :: r =>
      if accepts c then next { s with before := c :: s.before, after := r, index := s.index + 1 }
      else none
  | .seq p q, s, next => p.run s fun s' => q.run s' next
  | .alt p q, s, next =>
    match p.run s next with
    | some found => some found
    | none => q.run s next
  | .many p, s, next => rounds p.run next s.after s
  | .capture slot p, s, next =>
    p.run s fun s' =>
      next { s' with captures := ⟨slot, s.index, s'.index, s'.before⟩ :: s'.captures }
  | .ahead p, s, next =>
    match p.run s some with
    | some found => next { s with captures := found.captures }
    | none => none
  | .notAhead p, s, next =>
    match p.run s some with
    | some _ => none
    | none => next s
  | .behind sets, s, next => if coversStart sets s.before then next s else none
  | .notBehind sets, s, next => if coversStart sets s.before then none else next s
  | .wordEdge, s, next => if s.atWordEdge then next s else none
  | .start, s, next => if s.index = 0 then next s else none
  | .finish, s, next => if s.atFinish then next s else none

section

variable (p q : Pattern) (s : Place) (next : Place → Option Place)

theorem rounds_cons (step : Place → (Place → Option Place) → Option Place) (c : Char) (bound : Text) :
    rounds step next (c :: bound) s =
      (step s fun s' => if s'.index = s.index then none else rounds step next bound s').or (next s) := by
  change (match step s fun s' => if s'.index = s.index then none else rounds step next bound s' with
    | some found => some found
    | none => next s) = _
  cases step s fun s' => if s'.index = s.index then none else rounds step next bound s' <;> rfl

theorem run_alt_eq : (alt p q).run s next = (p.run s next).or (q.run s next) := by
  change (match p.run s next with | some found => some found | none => q.run s next) = _
  cases p.run s next <;> rfl

theorem run_many_eq : (many p).run s next = rounds p.run next s.after s := rfl

theorem run_ahead_eq : (ahead p).run s next =
    (p.run s some).bind fun found => next { s with captures := found.captures } := by
  change (match p.run s some with
    | some found => next { s with captures := found.captures }
    | none => none) = _
  cases p.run s some <;> rfl

theorem run_notAhead_eq :
    (notAhead p).run s next = if (p.run s some).isSome then none else next s := by
  change (match p.run s some with | some _ => none | none => next s) = _
  cases p.run s some <;> rfl

end

end Pattern

/-- A match: where it starts and stops, the text it covers, what follows it, and its slots. -/
structure Match where
  start : Nat
  stop : Nat
  text : Text
  rest : Text
  captures : List Capture
  deriving DecidableEq, Repr

namespace Match

/-- The latest filling of a slot. -/
def capture? (m : Match) (slot : Slot) : Option Capture :=
  m.captures.find? (·.slot = slot)

/-- The text in a slot, empty when the slot took no part in the match. -/
def textOf (m : Match) (slot : Slot) : Text :=
  match m.capture? slot with
  | some c => c.text
  | none => []

end Match

namespace Pattern

/-- The match that starts at a place, if there is one. -/
def matchAt (p : Pattern) (s : Place) : Option Match :=
  (p.run s some).map fun e =>
    ⟨s.index, e.index, (e.before.take (e.index - s.index)).reverse, e.after, e.captures⟩

/-- The match that starts where the text starts. -/
def matchStart (p : Pattern) (t : Text) : Option Match := p.matchAt (.ofText t)

/-- The match from one end of the text to the other. -/
def matchWhole (p : Pattern) (t : Text) : Option Match :=
  (p.run (.ofText t) fun e => if e.after.isEmpty then some e else none).map fun e =>
    ⟨0, e.index, t, [], e.captures⟩

/-- The leftmost match at or after a place, `after` being the text after the place. -/
def searchFrom (p : Pattern) (before : Text) (index : Nat) : (after : Text) → Option Match
  | [] => p.matchAt ⟨before, [], index, []⟩
  | c :: r =>
    match p.matchAt ⟨before, c :: r, index, []⟩ with
    | some m => some m
    | none => searchFrom p (c :: before) (index + 1) r

/-- The leftmost match in a text. -/
def search (p : Pattern) (t : Text) : Option Match := p.searchFrom [] 0 t

/-- Whether the pattern matches somewhere in a text. -/
def occursIn (p : Pattern) (t : Text) : Bool := (p.search t).isSome

/-- The matches in a text from left to right without overlap. The first `skip` characters belong
to the match before and are passed over. -/
def allFrom (p : Pattern) (before : Text) (index : Nat) : (skip : Nat) → (after : Text) → List Match
  | _ + 1, [] => []
  | 0, [] => (p.matchAt ⟨before, [], index, []⟩).toList
  | skip + 1, c :: r => allFrom p (c :: before) (index + 1) skip r
  | 0, c :: r =>
    match p.matchAt ⟨before, c :: r, index, []⟩ with
    | some m => m :: allFrom p (c :: before) (index + 1) (m.stop - index - 1) r
    | none => allFrom p (c :: before) (index + 1) 0 r

/-- All matches in a text, from left to right without overlap. -/
def all (p : Pattern) (t : Text) : List Match := p.allFrom [] 0 0 t

/-- Replaces the matches of `allFrom` and keeps the characters between them. -/
def replaceFrom (p : Pattern) (new : Match → Text) (before : Text) (index : Nat) :
    (skip : Nat) → (after : Text) → Text
  | _ + 1, [] => []
  | 0, [] =>
    match p.matchAt ⟨before, [], index, []⟩ with
    | some m => new m
    | none => []
  | skip + 1, c :: r => replaceFrom p new (c :: before) (index + 1) skip r
  | 0, c :: r =>
    match p.matchAt ⟨before, c :: r, index, []⟩ with
    | some m =>
      new m ++ (if m.stop = index then [c] else []) ++
        replaceFrom p new (c :: before) (index + 1) (m.stop - index - 1) r
    | none => c :: replaceFrom p new (c :: before) (index + 1) 0 r

/-- Replaces every match in a text. -/
def replaceAll (p : Pattern) (new : Match → Text) (t : Text) : Text := p.replaceFrom new [] 0 0 t

end Pattern

end SourceGrade
