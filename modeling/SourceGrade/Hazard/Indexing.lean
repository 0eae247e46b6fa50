import SourceGrade.Hazard.Evidence
/-!
# Unchecked indices

An element chosen by a variable is reported when nothing before it in its scope keeps the variable
within bounds. Mappings and types in brackets are left out. Each index of a receiver is reported
once in a scope.
-/

namespace SourceGrade.Indexing

open Pattern

/-- An access by a variable, perhaps with an offset. -/
def access : Pattern :=
  capture .receiver (identifier ++ many ("." ++ identifier)) ++ blanks ++ "[" ++ blanks ++
    capture .index identifier ++ blanks ++
    optional (capture .offset (anyOf "-+" ++ blanks ++ digits1)) ++ blanks ++ "]"

/-- Names of types, which stand before and between brackets without choosing an element. -/
def typeNames : List Text :=
  (["int", "str", "float", "bool", "bytes", "object", "Any", "T", "K", "V", "string", "number",
    "boolean", "list", "dict", "tuple", "set", "type"] : List Text) ++
  (["List", "Dict", "Tuple", "Set", "Optional", "Union", "Callable", "Iterable", "Sequence",
    "Mapping", "Type", "Literal", "Array", "Record", "Partial"] : List Text)

/-- The declaration of an array with its size. -/
def arrayDeclaration : Pattern :=
  start ++ blanks ++ many (oneOf ["const", "static", "unsigned"] ++ blanks1) ++
    (oneOf ["int", "char", "float", "double", "long", "short", "bool", "byte", "String", "auto",
      "size_t"] ||| "uint" ++ many wordChar) ++
    wordEdge ++ many (noneOf "=") ++ "["

/-- The initial value of a mapping, with what precedes it up to the name. -/
def mappingValue : Pattern :=
  blanks ++ optional (":" ++ many (noneOf "=")) ++ "=" ++ blanks ++
    ("\x7b" ||| oneOf ["dict", "defaultdict", "Counter", "OrderedDict"] ++ call |||
      "new" ++ blanks1 ++ optional (oneOf ["Hash", "Tree", "Linked"]) ++ "Map" ++ wordEdge |||
      "make" ++ call ++ blanks ++ "map" ++ wordEdge ||| "map[")

/-- An access in the code. -/
structure Access where
  line : SourceLine
  receiver : Text
  index : Text
  /-- The offset of the index with its sign, empty when there is none. -/
  offset : Text

/-- The accesses on a line. -/
def accessesOn (l : SourceLine) : List Access :=
  if (arrayDeclaration.matchStart l.code).isSome then []
  else
    (access.all l.code).map fun m =>
      ⟨l, m.textOf .receiver, m.textOf .index, (m.textOf .offset).filter (!Text.isBlank ·)⟩

/-- Whether an access chooses an element of something that is not known to be safe. -/
def isCandidate (language : Language) (a : Access) : Bool :=
  let owner := a.receiver.takeWhile (· != '.')
  !typeNames.contains a.receiver && !typeNames.contains a.index &&
    !a.receiver.head?.any Char.isUpper &&
    !(language.safeGlobals.contains owner && owner != ("self" : Text) && owner != ("this" : Text))

/-- Whether a name is given a mapping in its scope or at the outermost level. -/
def isMapping (i : Inspection) (receiver : Text) (scope : List SourceLine) : Bool :=
  let p := notAfter isIdentifierChar ++ literal receiver ++ mappingValue
  (scope ++ i.statements.filter (·.indent = 0)).any fun l => p.occursIn l.code

/-- The signs of an order. -/
def order : Pattern := oneOf ["<", "<=", ">", ">="]

/-- What keeps an index with an offset below it within bounds. -/
def lowerGuards (index : Pattern) : List Pattern :=
  [wordEdge ++ "range(" ++ blanks ++ nonZeroDigit,
    wordEdge ++ "for" ++ call ++ many inLine ++ index ++ blanks ++ "=" ++ blanks ++ nonZeroDigit,
    index ++ blanks ++ anyOf "-+" ++ blanks ++ digits1 ++ blanks ++ order,
    index ++ blanks ++ oneOf [">", ">="] ++ blanks ++ nonZeroDigit]

/-- What keeps an index with an offset above it within bounds. -/
def upperGuards (index : Pattern) : List Pattern :=
  [wordEdge ++ "range(" ++ many inLine ++ "-" ++ blanks ++ digit,
    index ++ blanks ++ anyOf "-+" ++ blanks ++ digits1 ++ blanks ++ order,
    index ++ blanks ++ oneOf ["<", "<="] ++ blanks ++ many1 (wordCharOr "$.()") ++ blanks ++ "-" ++
      blanks ++ digit]

/-- What keeps an index without an offset within bounds. -/
def plainGuards (index receiver : Pattern) : List Pattern :=
  [wordEdge ++ "for" ++ call ++ blanks ++
      optional (oneOf ["let", "var", "const", "int", "size_t", "auto", "long", "unsigned"]) ++
      blanks ++ index ++ blanks ++ "=",
    wordEdge ++ "for" ++ blanks1 ++ index ++ blanks1 ++ "in" ++ wordEdge,
    wordEdge ++ "for" ++ blanks1 ++ optional "(" ++ blanks ++ index ++ blanks ++ ",",
    wordEdge ++ "for" ++ call ++ blanks ++ oneOf ["const", "let", "var"] ++ blanks1 ++ index ++
      blanks1 ++ oneOf ["in", "of"] ++ wordEdge,
    wordEdge ++ "for" ++ blanks1 ++ index ++ blanks ++
      optional ("," ++ blanks ++ many1 wordChar ++ blanks) ++ optional ":" ++ "=" ++ blanks ++
      "range" ++ wordEdge,
    "|" ++ blanks ++ many1 wordChar ++ blanks ++ "," ++ blanks ++ index ++ blanks ++ "|",
    "forEach(" ++ blanks ++ optional "(" ++ blanks ++ many1 wordChar ++ blanks ++ "," ++ blanks ++
      index,
    index ++ blanks ++ order ++ notAhead (anyOf "<>"),
    notAfter (fun c => c == '<' || c == '>') ++ order ++ blanks ++ index,
    index ++ blanks1 ++ optional ("not" ++ blanks1) ++ "in" ++ blanks1,
    "." ++ oneOf ["has", "containsKey", "hasOwnProperty", "includes", "contains", "get", "count"] ++
      "(" ++ blanks ++ index,
    wholeWordOf ["if", "while"] ++ many (one fun c => Text.isBlank c || c == '(' || c == '!') ++
      optional ("not" ++ blanks1) ++ receiver ++ blanks ++ optional (".length" ++ blanks) ++
      (")" ||| ":" ||| "\x7b" ||| "&&" ||| wholeWord "and")]

/-- What keeps the index of an access within bounds. -/
def guards (a : Access) : List Pattern :=
  let index := term a.index
  if Text.startsWith "-" a.offset then lowerGuards index
  else if a.offset.isEmpty then plainGuards index (term a.receiver)
  else upperGuards index

/-- Whether an access is to be reported. -/
def isUnchecked (i : Inspection) (a : Access) : Bool :=
  isCandidate i.source.language a &&
    let scope := i.scope a.line.number
    !isMapping i a.receiver scope && !guarded (guards a) scope a.line.number

def describe (a : Access) : Text :=
  if a.offset.isEmpty then
    "Index '" ++ a.index ++ "' used on '" ++ a.receiver ++ "' without a bounds check"
  else
    "Index '" ++ a.index ++ a.offset ++ "' on '" ++ a.receiver ++ "' may fall outside its bounds"

/-- The issues of indices, each index of a receiver once in its scope. -/
def issues (i : Inspection) : List Issue :=
  let found := (i.statements.flatMap accessesOn).filter (isUnchecked i)
  (firstOfKey (fun a : Access => (i.scopeKey a.line.number, a.receiver, a.index ++ a.offset)) []
    found).map fun a => i.issueAt .runtime .major (describe a) a.line Rule.index

end SourceGrade.Indexing
