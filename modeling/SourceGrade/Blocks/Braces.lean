import SourceGrade.Blocks.Basic
/-!
# Blocks in braces

A brace opens a block of the kind of the last keyword before it, unless a semicolon outside
parentheses came between. A line gets the deepest stack of open blocks that occurs on it, its
beginning included.
-/

namespace SourceGrade

/-- Why no block map can be made. -/
inductive BlockError where
  /-- A word begins with a letter that no keyword begins with and no name may begin with. -/
  | foreignWord
  deriving DecidableEq, Repr

namespace BlockError

def message : BlockError → Text
  | foreignWord => "'NoneType' object has no attribute 'group'"

end BlockError

namespace Braces

/-- The parts of a line of code that bear on its blocks. -/
inductive Token where
  | word (text : Text) (afterDot : Bool)
  | openParen | closeParen | semicolon | openBrace | closeBrace
  deriving DecidableEq, Repr

/-- The token of a single character. -/
def tokenOf? : Char → Option Token
  | '(' => some .openParen
  | ')' => some .closeParen
  | ';' => some .semicolon
  | '{' => some .openBrace
  | '}' => some .closeBrace
  | _ => none

/-- The tokens of a text that follows the character `before`. The first `skip` characters belong to
the word before. -/
def tokensFrom (before : Option Char) : (skip : Nat) → Text → Except BlockError (List Token)
  | _, [] => .ok []
  | skip + 1, c :: r => tokensFrom (some c) skip r
  | 0, c :: r =>
    if Pattern.isNameStart c then
      let tail := r.takeWhile Text.isWordChar
      (tokensFrom (some c) tail.length r).map (.word (c :: tail) (before == some '.') :: ·)
    else if Text.isLetter c then .error .foreignWord
    else (tokensFrom (some c) 0 r).map ((tokenOf? c).toList ++ ·)

def tokens (code : Text) : Except BlockError (List Token) := tokensFrom none 0 code

/-- The open blocks, innermost first, and the kind that the next brace opens. -/
structure State where
  stack : List BlockKind
  pending : Option BlockKind
  deriving DecidableEq, Repr

/-- The effect of a token. `parens` counts the parentheses that are open on the line. -/
def step (keywords : List (Text × BlockKind)) (s : State) (parens : Nat) : Token → State × Nat
  | .word w afterDot =>
    match keywords.lookup w with
    | some kind => (if afterDot then s else { s with pending := some kind }, parens)
    | none => (s, parens)
  | .openParen => (s, parens + 1)
  | .closeParen => (s, parens - 1)
  | .semicolon => (if parens = 0 then { s with pending := none } else s, parens)
  | .openBrace => (⟨s.pending.getD .other :: s.stack, none⟩, parens)
  | .closeBrace => ({ s with stack := s.stack.tail }, parens)

/-- The deepest stack on a line, the earliest of that depth, and the state after the line. -/
def runLine (keywords : List (Text × BlockKind)) :
    (deepest : List BlockKind) → State → (parens : Nat) → List Token → List BlockKind × State
  | deepest, s, _, [] => (deepest, s)
  | deepest, s, parens, t :: ts =>
    let (s', parens') := step keywords s parens t
    runLine keywords (if deepest.length < s'.stack.length then s'.stack else deepest) s' parens' ts

/-- The stacks of the lines, outermost block first, from a state on. -/
def stacksFrom (keywords : List (Text × BlockKind)) (s : State) :
    List Text → Except BlockError (List (List BlockKind))
  | [] => .ok []
  | code :: codes =>
    match tokens code with
    | .error e => .error e
    | .ok ts =>
      let (deepest, s') := runLine keywords s.stack s 0 ts
      (stacksFrom keywords s' codes).map (deepest.reverse :: ·)

/-- The stacks of the lines of a source whose blocks stand in braces. -/
def lineBlocks (source : Source) : Except BlockError (List (List BlockKind)) :=
  stacksFrom source.language.blockKeywords ⟨[], none⟩ (source.lines.map (·.code))

end Braces

end SourceGrade
