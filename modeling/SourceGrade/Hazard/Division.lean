import SourceGrade.Hazard.Evidence
import SourceGrade.Hazard.Literal
/-!
# Unchecked divisions

A division or remainder is reported when its divisor is zero, or when it names a value that nothing
before it in its scope compares with a number or tests. Each divisor is reported once in a scope.
-/

namespace SourceGrade

/-- Why the search for hazards stops. -/
inductive HazardError where
  /-- A divisor is a whole number beyond all doubles. -/
  | hugeLiteral
  /-- A function without nested blocks has no deepest line. -/
  | noDeepestLine
  deriving DecidableEq, Repr

namespace HazardError

def message : HazardError → Text
  | hugeLiteral => "int too large to convert to float"
  | noDeepestLine => "unsupported operand type(s) for -: 'NoneType' and 'int'"

end HazardError

namespace Division

open Pattern

/-- A division or remainder after a value, with the beginning of its divisor. -/
def operation : Pattern :=
  behind [fun c => Text.isWordChar c || c == ')' || c == ']'] ++ blanks ++
    capture .operator (oneOf ["//", "/", "%"]) ++ optional "=" ++ blanks ++
    capture .divisor
      ("(" |||
        identifier ++ many (blanks ++ "." ++ blanks ++ identifier) ++
          optional (call ++ many (noneOf "()") ++ ")") |||
        numberLiteral)

/-- Code after which a slash begins a regular expression. -/
def regexContext : Pattern :=
  wordEdge ++ oneOf ["return", "typeof", "case", "in", "of"] ++ blanks ++ finish

/-- Expressions that replace zero by another value. -/
def safeExpression : Pattern :=
  "||" ++ blanks ++ nonZeroDigit ||| wordEdge ++ "or" ++ blanks1 ++ nonZeroDigit |||
    "??" ++ blanks ++ nonZeroDigit ||| wordEdge ++ "max" ++ call ||| "Math.max" ++ call |||
    wordEdge ++ "clamp" ++ call

/-- The text up to the parenthesis that closes the one it begins with. -/
def balancedFrom (depth : Nat) : Text → Option Text
  | [] => none
  | c :: r =>
    if c = '(' then (balancedFrom (depth + 1) r).map (c :: ·)
    else if c = ')' then if depth ≤ 1 then some [c] else (balancedFrom (depth - 1) r).map (c :: ·)
    else (balancedFrom depth r).map (c :: ·)

/-- Whether a comma stands outside the brackets of a text. -/
def commaOutside (depth : Int) : Text → Bool
  | [] => false
  | c :: r =>
    if c = '(' ∨ c = '[' ∨ c = '{' then commaOutside (depth + 1) r
    else if c = ')' ∨ c = ']' ∨ c = '}' then commaOutside (depth - 1) r
    else if c = ',' ∧ depth = 0 then true
    else commaOutside depth r

/-- The divisor of a match without its blanks. A divisor in parentheses that replaces zero, and a
list of values to be formatted, are none. -/
def divisor? (code : Text) (m : Match) : Option Text := do
  let c ← m.capture? .divisor
  let text ←
    if c.text = ("(" : Text) then do
      let t ← balancedFrom 0 (code.drop c.start)
      if safeExpression.occursIn t then none
      else if m.textOf .operator = ("%" : Text) && commaOutside 0 (t.drop 1).dropLast then none
      else some t
    else some c.text
  some (text.filter (!Text.isBlank ·))

/-- Words that stand for the object at hand and not for a value. -/
def receiverWords : List Text := ["self", "this", "Math"]

/-- Members that give the size of their owner. -/
def sizeMembers : List Text := ["length", "size", "count"]

/-- The names in a divisor that are not called, each with whether a point precedes it. -/
def names (divisor : Text) : List (Text × Bool) :=
  (identifier.all divisor).filterMap fun m =>
    if receiverWords.contains m.text || Text.startsWith "(" (Text.stripLeft m.rest) then none
    else some (m.text, Text.endsWith "." (Text.stripRight (divisor.take m.start)))

/-- What a guard can name instead of the divisor: the divisor itself, its inside, and its names. A
size gives way to its owner. -/
def terms (divisor : Text) : List Text :=
  let all := names divisor
  let kept :=
    if 1 < all.length then all.filter fun (name, member) => !(member && sizeMembers.contains name)
    else all
  if kept.isEmpty then []
  else
    divisor ::
      (if Text.startsWith "(" divisor && Text.endsWith ")" divisor then
        [(divisor.drop 1).dropLast] else []) ++
      kept.map (·.1)

/-- The signs of a comparison. -/
def comparison : Pattern :=
  "!=" ++ optional "=" ||| "==" ++ optional "=" ||| ">" ++ optional "=" ||| "<" ++ optional "="

/-- The guards that name a term. -/
def guards (text : Text) : List Pattern :=
  let t := term (compact text)
  [t ++ blanks ++ comparison ++ blanks ++ optional "-" ++ digit,
    digit ++ blanks ++ comparison ++ blanks ++ t,
    truthinessCheck t,
    t ++ blanks ++ ("&&" ||| wholeWord "and" ||| "?" ++ notAhead (anyOf ".?")),
    wordEdge ++ "max" ++ call ++ many (noneOf ")") ++ t,
    t ++ blanks ++ ("||" ||| wholeWord "or" ||| "??") ++ blanks ++ nonZeroDigit]

/-- A division that is to be reported. -/
structure Finding where
  line : SourceLine
  divisor : Text
  description : Text

/-- Judges one division. -/
def judge (i : Inspection) (l : SourceLine) (m : Match) : Except HazardError (Option Finding) :=
  let before := l.code.take (((m.capture? .operator).map (·.start)).getD 0)
  if regexContext.occursIn before then .ok none
  else
    match divisor? l.code m with
    | none => .ok none
    | some divisor =>
      match LiteralValue.ofText divisor with
      | .tooLarge => .error .hugeLiteral
      | .nonZero => .ok none
      | .zero => .ok (some ⟨l, divisor, "Division by literal zero always fails at runtime"⟩)
      | .unknown =>
        let ts := terms divisor
        if ts.isEmpty || guarded (ts.flatMap guards) (i.scope l.number) l.number then .ok none
        else
          .ok (some ⟨l, divisor, "Unchecked division by '" ++ divisor ++ "' fails when it is zero"⟩)

/-- Judges divisions in order. -/
def judgeAll (i : Inspection) : List (SourceLine × Match) → Except HazardError (List Finding)
  | [] => .ok []
  | (l, m) :: rest =>
    match judge i l m with
    | .error e => .error e
    | .ok finding => (judgeAll i rest).map (finding.toList ++ ·)

/-- The divisions in the statements of a unit. -/
def operations (i : Inspection) : List (SourceLine × Match) :=
  i.statements.flatMap fun l => (operation.all l.code).map (l, ·)

/-- The issues of divisions, each divisor once in its scope. -/
def issues (i : Inspection) : Except HazardError (List Issue) :=
  (judgeAll i (operations i)).map fun findings =>
    (firstOfKey (fun f : Finding => (i.scopeKey f.line.number, f.divisor)) [] findings).map fun f =>
      i.issueAt .runtime .critical f.description f.line Rule.division

end Division

end SourceGrade
