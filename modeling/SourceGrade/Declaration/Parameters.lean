import SourceGrade.Language.Basic
/-!
# Parameter lists

A parameter list is cut at the commas outside brackets. Each piece gives the name of a parameter and
tells whether its value may be null: by its default value, by its type, or by the habits of the
language.
-/

namespace SourceGrade.Parameters

open Pattern

/-- The bracket depth after a character. A closing bracket without an opening one is ignored. -/
def depthAfter (depth : Nat) (c : Char) : Nat :=
  match c with
  | '(' | '[' | '{' | '<' => depth + 1
  | ')' | ']' | '}' | '>' => depth - 1
  | _ => depth

/-- The pieces of a text between the commas outside brackets, from a bracket depth on. -/
def splitFrom (depth : Nat) : Text → List Text
  | [] => [[]]
  | c :: r =>
    let depth' := depthAfter depth c
    if c = ',' ∧ depth' = 0 then [] :: splitFrom depth' r
    else
      match splitFrom depth' r with
      | [] => [[c]]
      | p :: ps => (c :: p) :: ps

/-- The pieces of a parameter list. -/
def split (t : Text) : List Text := splitFrom 0 t

/-- A name, perhaps marked as optional, with a colon and a type after it. -/
def annotated : Pattern :=
  start ++ blanks ++ many (anyOf "*&") ++ blanks ++ optional ("mut" ++ blanks1) ++
    optional "..." ++ capture .name identifier ++ blanks ++ optional (capture .optional "?") ++
    blanks ++ ":" ++ notAhead ":" ++ blanks ++ capture .type (many inLine) ++ finish

/-- The equals sign before a default value, which is no part of a comparison or an arrow. -/
def defaultMark : Pattern :=
  notAfter (fun c => c == '=' || c == '!' || c == '<' || c == '>') ++ "=" ++ notAhead (anyOf "=>")

/-- Words in the place of a name that are no parameters of their own. -/
def skipped : List Text := ["self", "cls", "this", "void", "mut"]

/-- What precedes the last occurrence of a part. -/
def beforeLast (part : Text) : Text → Text
  | [] => []
  | c :: r => if Text.occurs part r then c :: beforeLast part r else []

/-- What follows the first occurrence of a part. -/
def afterFirst (part : Text) : Text → Text
  | [] => []
  | c :: r =>
    match Text.dropPrefix? part (c :: r) with
    | some rest => rest
    | none => afterFirst part r

/-- A parameter: its name, what is said about its type, and its default value. -/
structure Piece where
  name : Text
  typeText : Text
  default? : Option Text
  deriving DecidableEq, Repr

/-- Reads one piece of a parameter list. A piece without a name is no parameter. -/
def Piece.ofText? (position : NamePosition) (t : Text) : Option Piece :=
  let t := Text.strip t
  let (t, default?) :=
    match defaultMark.search t with
    | some m => (Text.strip (t.take m.start), some (Text.strip m.rest))
    | none => (t, none)
  match annotated.matchStart t with
  | some m => some ⟨m.textOf .name, m.textOf .optional ++ m.textOf .type, default?⟩
  | none =>
    let names := (identifier.all t).map (·.text)
    match position with
    | .first => names.head?.map fun name => ⟨name, afterFirst name t, default?⟩
    | .last => names.getLast?.map fun name => ⟨name, beforeLast name t, default?⟩

/-- Whether a parameter may be null. -/
def Piece.isNullable (l : Language) (p : Piece) : Bool :=
  if p.default?.any l.nullLiterals.contains then true
  else
    let typeText := Text.strip p.typeText
    if typeText.isEmpty then l.nullableByDefault
    else if l.nullableMarkers.any fun mark => Text.occurs mark typeText then true
    else if ((many1 wordChar).all typeText).any (fun m => l.nonNullableTypes.contains m.text) &&
        !typeText.contains '[' then false
    else l.namePosition == .last && l.nullableByDefault

/-- The parameters of a list, the skipped words left out. -/
def pieces (l : Language) (t : Text) : List Piece :=
  ((split t).filterMap (Piece.ofText? l.namePosition)).filter fun p => !skipped.contains p.name

/-- The names of the parameters of a list. -/
def names (l : Language) (t : Text) : List Text := (pieces l t).map (·.name)

/-- The names of the parameters that may be null. -/
def nullable (l : Language) (t : Text) : List Text :=
  ((pieces l t).filter (·.isNullable l)).map (·.name)

end SourceGrade.Parameters
