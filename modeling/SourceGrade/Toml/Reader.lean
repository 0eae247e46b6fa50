import SourceGrade.Toml.Document
import SourceGrade.Toml.Lexis
import SourceGrade.Toml.Number
/-!
# Reading settings files

A settings file is a sequence of lines: keys with values, openings of tables, comments. The file is
read as the members of its outermost table, or refused. Values are nested only as deep as there is
room, of which a table takes more than a list.
-/

namespace SourceGrade.Toml

/-- The room for nested values. -/
def nestingRoom : Nat := 980

/-- The room that a container takes. -/
def roomOf : Container → Nat
  | .list => 2
  | .object => 3

/-- The room that is left inside a container. -/
def roomInside (c : Container) (room : Nat) : Except Refusal Nat :=
  if room < roomOf c then .error (.tooDeep c) else .ok (room - roomOf c)

mutual

/-- A value that begins a text. -/
def value : (fuel room : Nat) → Text → Except Refusal (Setting × Text)
  | 0, _, _ => .error .malformed
  | fuel + 1, room, t =>
    match t with
    | '"' :: _ => Refusal.unless ((string? t).map fun (s, r) => (.text s, r))
    | '\'' :: _ => Refusal.unless ((string? t).map fun (s, r) => (.text s, r))
    | 't' :: 'r' :: 'u' :: 'e' :: r => .ok (.flag true, r)
    | 'f' :: 'a' :: 'l' :: 's' :: 'e' :: r => .ok (.flag false, r)
    | '[' :: r => do
      let room ← roomInside .list room
      match ← Refusal.unless (skipBetween? fuel r) with
      | ']' :: r => return (.list [], r)
      | r =>
        let (items, r) ← items fuel room r
        return (.list items, r)
    | '{' :: r => do
      let room ← roomInside .object room
      match skipSpace r with
      | '}' :: r => return (.table [], r)
      | r =>
        let (members, r) ← inlineTable fuel room [] [] r
        return (.table members, r)
    | t => scalar t

/-- The items of an array up to its closing bracket. A comma may stand before it. -/
def items : (fuel room : Nat) → Text → Except Refusal (List Setting × Text)
  | 0, _, _ => .error .malformed
  | fuel + 1, room, t => do
    let (item, r) ← value fuel room t
    match ← Refusal.unless (skipBetween? fuel r) with
    | ']' :: r => return ([item], r)
    | ',' :: r =>
      match ← Refusal.unless (skipBetween? fuel r) with
      | ']' :: r => return ([item], r)
      | r =>
        let (items, r) ← items fuel room r
        return (item :: items, r)
    | _ => .error .malformed

/-- A key with its value. -/
def assignment : (fuel room : Nat) → Text → Except Refusal ((Path × Setting) × Text)
  | 0, _, _ => .error .malformed
  | fuel + 1, room, t => do
    match ← Refusal.unless (key? (t.length + 1) t) with
    | (key, '=' :: r) =>
      let (v, r) ← value fuel room (skipSpace r)
      return ((key, v), r)
    | _ => .error .malformed

/-- The members of an inline table up to its closing brace. -/
def inlineTable : (fuel room : Nat) → (frozen : List Path) → Members → Text →
    Except Refusal (Members × Text)
  | 0, _, _, _, _ => .error .malformed
  | fuel + 1, room, frozen, members, t => do
    let ((key, v), r) ← assignment fuel room t
    let members ← Refusal.unless (assignInline key v frozen members)
    match skipSpace r with
    | '}' :: r => return (members, r)
    | ',' :: r =>
      inlineTable fuel room (if Document.isClosed v then key :: frozen else frozen) members
        (skipSpace r)
    | _ => .error .malformed

end

/-- The brackets around the name of a table, with what they do. -/
def header? (brackets : Nat) (openAt : Path → Document → Option Document) (t : Text)
    (d : Document) : Option (Document × Text) := do
  let (path, r) ← key? (t.length + 1) (skipSpace (t.drop brackets))
  let d ← openAt path d
  (Text.dropPrefix? (List.replicate brackets ']') r).map (d, ·)

/-- The statement at the beginning of a line, which may be missing. -/
def statement (t : Text) (d : Document) : Except Refusal (Document × Text) :=
  match t with
  | '[' :: '[' :: _ => Refusal.unless (header? 2 Document.openListTable t d)
  | '[' :: _ => Refusal.unless (header? 1 Document.openTable t d)
  | [] => .ok (d, t)
  | c :: _ =>
    if isKeyChar c || c == '"' || c == '\'' then do
      let ((key, v), r) ← assignment (2 * t.length + 2) nestingRoom t
      return (← Refusal.unless (d.assign key v), r)
    else .ok (d, t)

/-- Reads the lines of a file, of which there are no more than characters. -/
def lines : (fuel : Nat) → Text → Document → Except Refusal Document
  | 0, _, _ => .error .malformed
  | fuel + 1, t, d => do
    let (d, r) ← statement (skipSpace t) d
    match ← Refusal.unless (comment? (skipSpace r)) with
    | [] => return d
    | '\n' :: r => lines fuel r d
    | _ => .error .malformed

/-- The members of the outermost table of a settings file. -/
def read (t : Text) : Except Refusal Members :=
  let t := Text.replace "\r\n" "\n" t
  (lines (t.length + 1) t {}).map (·.members)

end SourceGrade.Toml
