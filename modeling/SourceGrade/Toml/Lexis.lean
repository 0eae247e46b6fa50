import SourceGrade.Text.Basic
import SourceGrade.Text.Letter
/-!
# Blanks, comments, texts and keys of settings files

The smallest pieces of a settings file. Each reader takes a text and gives what it read with the
rest, or nothing when the text does not begin so.
-/

namespace SourceGrade.Toml

def isSpace (c : Char) : Bool := c == ' ' || c == '\t'

def isSpaceOrLine (c : Char) : Bool := isSpace c || c == '\n'

def skipSpace (t : Text) : Text := t.dropWhile isSpace

/-- Controls may stand nowhere, except the tab. -/
def isForbidden (c : Char) : Bool := (c.val < 32 && c != '\t') || c.val == 127

def isForbiddenInLines (c : Char) : Bool := isForbidden c && c != '\n'

/-- What follows a comment, if there is one. -/
def comment? (t : Text) : Option Text :=
  match t with
  | '#' :: r =>
    if (r.takeWhile (· != '\n')).any isForbidden then none else some (r.dropWhile (· != '\n'))
  | t => some t

/-- What follows the blanks, line ends and comments between the items of an array. -/
def skipBetween? : (fuel : Nat) → Text → Option Text
  | 0, t => some t
  | fuel + 1, t =>
    match t.dropWhile isSpaceOrLine with
    | '#' :: r => (comment? ('#' :: r)).bind (skipBetween? fuel)
    | r => some r

/-- A text up to the next occurrence of its end, which is dropped. -/
def upTo? (ending : Text) (forbidden : Char → Bool) : Text → Option (Text × Text)
  | [] => none
  | c :: r =>
    match Text.dropPrefix? ending (c :: r) with
    | some rest => some ([], rest)
    | none =>
      if forbidden c then none
      else (upTo? ending forbidden r).map fun (t, rest) => (c :: t, rest)

/-- The character of a number of hexadecimal digits. -/
def codePoint? (digits : Nat) (t : Text) : Option (Char × Text) := do
  let values ← (t.take digits).mapM Text.hexDigit?
  let n := values.foldl (fun n d => n * 16 + d) 0
  if values.length < digits || 0x110000 ≤ n || (0xD800 ≤ n && n < 0xE000) then none
  else some (Char.ofNat n, t.drop digits)

/-- The character of an escape, given the text after the backslash. -/
def escaped? : Text → Option (Char × Text)
  | 'b' :: r => some ('\x08', r)
  | 't' :: r => some ('\t', r)
  | 'n' :: r => some ('\n', r)
  | 'f' :: r => some ('\x0c', r)
  | 'r' :: r => some ('\r', r)
  | '"' :: r => some ('"', r)
  | '\\' :: r => some ('\\', r)
  | 'u' :: r => codePoint? 4 r
  | 'U' :: r => codePoint? 8 r
  | _ => none

/-- What follows a backslash at the end of a line: the blanks up to the next text are dropped. -/
def joinedLine? (t : Text) : Option Text :=
  match t.head? with
  | some c =>
    if isSpaceOrLine c then
      match skipSpace t with
      | [] => some []
      | '\n' :: r => some (r.dropWhile isSpaceOrLine)
      | _ => none
    else none
  | none => none

/-- The rest of a text in double quotes. -/
def quotedTail? : (fuel : Nat) → Text → Option (Text × Text)
  | 0, _ => none
  | _, [] => none
  | _ + 1, '"' :: r => some ([], r)
  | fuel + 1, '\\' :: r => do
    let (c, r) ← escaped? r
    let (t, r) ← quotedTail? fuel r
    some (c :: t, r)
  | fuel + 1, c :: r =>
    if isForbidden c then none
    else do
      let (t, r) ← quotedTail? fuel r
      some (c :: t, r)

/-- The rest of a text over several lines in three double quotes. -/
def quotedLinesTail? : (fuel : Nat) → Text → Option (Text × Text)
  | 0, _ => none
  | _, [] => none
  | _ + 1, '"' :: '"' :: '"' :: r => some ([], r)
  | fuel + 1, '\\' :: r =>
    match joinedLine? r with
    | some r => quotedLinesTail? fuel r
    | none => do
      let (c, r) ← escaped? r
      let (t, r) ← quotedLinesTail? fuel r
      some (c :: t, r)
  | fuel + 1, c :: r =>
    if isForbiddenInLines c then none
    else do
      let (t, r) ← quotedLinesTail? fuel r
      some (c :: t, r)

/-- Up to two more quotes before the three that end a text belong to it. -/
def takeQuotes (quote : Char) (t rest : Text) : Text × Text :=
  let more := min 2 (rest.takeWhile (· == quote)).length
  (t ++ List.replicate more quote, rest.drop more)

/-- Drops a line end at the beginning of a text over several lines. -/
def dropLineEnd : Text → Text
  | '\n' :: r => r
  | t => t

/-- A text in quotes of any kind. -/
def string? (t : Text) : Option (Text × Text) :=
  match t with
  | '"' :: '"' :: '"' :: r =>
    (quotedLinesTail? (r.length + 1) (dropLineEnd r)).map fun (t, r) => takeQuotes '"' t r
  | '"' :: r => quotedTail? (r.length + 1) r
  | '\'' :: '\'' :: '\'' :: r =>
    (upTo? "'''" isForbiddenInLines (dropLineEnd r)).map fun (t, r) => takeQuotes '\'' t r
  | '\'' :: r => upTo? "'" isForbidden r
  | _ => none

def isKeyChar (c : Char) : Bool :=
  Text.isAsciiLetter c || Text.isAsciiDigit c || c == '-' || c == '_'

/-- One part of a key: a bare word, or a text in quotes on one line. -/
def keyPart? (t : Text) : Option (Text × Text) :=
  match t with
  | '"' :: r => quotedTail? (r.length + 1) r
  | '\'' :: r => upTo? "'" isForbidden r
  | t =>
    if (t.takeWhile isKeyChar).isEmpty then none
    else some (t.takeWhile isKeyChar, t.dropWhile isKeyChar)

/-- A key: parts with points between. -/
def key? : (fuel : Nat) → Text → Option (List Text × Text)
  | 0, _ => none
  | fuel + 1, t => do
    let (part, r) ← keyPart? t
    match skipSpace r with
    | '.' :: r =>
      let (parts, r) ← key? fuel (skipSpace r)
      some (part :: parts, r)
    | r => some ([part], r)

end SourceGrade.Toml
