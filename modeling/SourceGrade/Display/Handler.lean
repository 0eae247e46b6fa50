import SourceGrade.Pattern.Build
/-!
# Handlers in tags

A tag can name a handler, with arguments in brackets or without any. The arguments are numbers,
quoted texts, a few constants, and tuples of arguments.
-/

namespace SourceGrade.Handler

open Pattern

/-- A number with a sign, or a text in quotes, or a constant. -/
def atom : Pattern :=
  optional (anyOf "+-") ++
      (between '1' '9' ++ many decimalDigit ++ notAhead (one isNumberPart) |||
        many1 "0" ++ notAhead (one isNumberPart) |||
        many1 decimalDigit ++ "." ++ many decimalDigit ++ optional exponent |||
        "." ++ many1 decimalDigit ++ optional exponent ||| many1 decimalDigit ++ exponent) ++
      notAhead (one isNumberPart) |||
    quoted '\'' ||| quoted '"' |||
    oneOf ["None", "True", "False"] ++ notAhead wordChar
where
  decimalDigit : Pattern := between '0' '9'
  isNumberPart (c : Char) : Bool := Text.isWordChar c || c == '.'
  exponent : Pattern := anyOf "eE" ++ optional (anyOf "+-") ++ many1 (between '0' '9')
  quoted (q : Char) : Pattern :=
    q ++ many (one (fun c => c != q && c != '\\' && c != '\n') ||| "\\" ++ one fun _ => true) ++ q

/-- What stands before a place among arguments. -/
inductive Before where
  | nothing | opening | argument | comma
  deriving DecidableEq, Repr

/-- Whether a text is a list of arguments, `depth` brackets being open before it. -/
def isList : (fuel : Nat) → Before → (depth : Nat) → Text → Bool
  | 0, _, _, _ => false
  | fuel + 1, before, depth, t =>
    match t.dropWhile fun c => c == ' ' || c == '\t' with
    | [] => depth = 0 && (before = .argument || before = .comma)
    | '(' :: r => before ≠ .argument && isList fuel .opening (depth + 1) r
    | ')' :: r => before ≠ .nothing && 0 < depth && isList fuel .argument (depth - 1) r
    | ',' :: r => before = .argument && isList fuel .comma depth r
    | r =>
      before ≠ .argument &&
        match atom.matchStart r with
        | some m => isList fuel .argument depth m.rest
        | none => false

/-- Whether a text is one or more arguments. -/
def isArguments (t : Text) : Bool := isList (t.length + 1) .nothing 0 t

/-- Whether a text names a handler, or is an argument itself. -/
def isSound (t : Text) : Bool :=
  match (Text.strip t).dropWhile fun c => Text.isWordChar c || c == '.' with
  | [] => true
  | '(' :: r =>
    if (r.getLast? = some ')') && !r.contains '\n' then isArguments ('(' :: r)
    else isArguments (Text.strip t)
  | _ => isArguments (Text.strip t)

end SourceGrade.Handler
