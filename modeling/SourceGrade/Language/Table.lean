import SourceGrade.Language.Basic
/-!
# The languages of the analysis

One entry for each language, and `generic` for everything else.
-/

namespace SourceGrade.Language

open Pattern

/-- A parameter list up to its closing parenthesis, with blanks before it. -/
def parameterList : Pattern := call ++ capture .parameters (many (noneOf ")")) ++ ")"

/-- The name of a declaration, made of word characters. -/
def declaredName : Pattern := capture .name (many1 wordChar)

/-- A question mark that chooses between two values, rather than one that belongs to a type, an
optional access or an optional parameter. -/
def ternary : Pattern :=
  notAfter (fun c => c == '<' || c == '?') ++ "?" ++ notAhead (anyOf ".?:=>,)]") ++
    notAhead (blanks ++ oneOf ["extends", "super"] ++ wordEdge)

def logicalOperators : List Pattern := ["&&", "||"]

/-- The label of a `switch` that takes what no case takes. -/
def defaultLabel : Pattern := wordEdge ++ "default" ++ blanks ++ ":"

/-- The decision points of languages with the control statements of C. -/
def bracedDecisions : List Pattern :=
  [wholeWord "if", wholeWord "for", wholeWord "while", wholeWord "case", defaultLabel,
    wholeWord "catch"] ++ logicalOperators ++ [ternary]

def bracedKeywords : List (Text × BlockKind) :=
  [("if", .conditional), ("else", .alternative), ("for", .loop), ("foreach", .loop),
    ("while", .loop), ("do", .loop), ("switch", .switch), ("try", .attempt), ("catch", .handler),
    ("finally", .cleanup)]

/-- Objects that a script finds in its environment. -/
def scriptGlobals : List Text :=
  ["console", "Math", "JSON", "Object", "Array", "Number", "String", "Boolean", "Promise", "Date",
    "Symbol", "Reflect", "Intl", "Map", "Set", "Error", "window", "document", "process", "module",
    "exports", "require", "globalThis", "navigator", "localStorage", "this", "super"]

/-- Types of plain values, which are never null. -/
def primitiveTypes : List Text :=
  ["int", "long", "short", "char", "float", "double", "bool", "boolean", "byte", "unsigned",
    "signed", "size_t", "void", "uint8_t", "uint16_t", "uint32_t", "uint64_t", "int8_t", "int16_t",
    "int32_t", "int64_t"]

/-- A declaration that begins with `def`; its parameter list may run on to the next line. -/
def defDeclaration : Pattern :=
  start ++ blanks ++ optional ("async" ++ blanks1) ++ "def" ++ blanks1 ++ declaredName ++ call ++
    capture .parameters (many (noneOf ")"))

/-- The visibility of a declaration, with an optional range in parentheses. -/
def visibility : Pattern :=
  optional ("pub" ++ optional ("(" ++ many (noneOf ")") ++ ")") ++ blanks1)

def python : Language where
  name := "python"
  aliases := ["py", "python3", "py3"]
  lineComments := ["#"]
  blockComments := [("\"\"\"", "\"\"\""), ("'''", "'''")]
  decisions :=
    [wholeWord "if", wholeWord "elif", wholeWord "for", wholeWord "while", wholeWord "except",
      wholeWord "case", wholeWord "and", wholeWord "or"]
  functions := [defDeclaration]
  classes := [start ++ blanks ++ "class" ++ blanks1 ++ declaredName]
  blockStyle := .indentation
  blockKeywords :=
    [("if", .conditional), ("elif", .alternative), ("else", .alternative), ("for", .loop),
      ("while", .loop), ("try", .attempt), ("except", .handler), ("finally", .cleanup),
      ("match", .switch)]
  nullableMarkers := ["Optional", "None", "Any"]
  nullableByDefault := false
  nullLiterals := ["None"]
  safeGlobals :=
    ["self", "cls", "super", "os", "sys", "math", "re", "json", "str", "int", "float", "list",
      "dict", "set", "tuple", "bytes", "logging", "typing", "collections", "itertools",
      "functools", "datetime", "time", "random", "pathlib", "np", "pd"]
  docstrings := true

def javascript : Language where
  name := "javascript"
  aliases := ["js", "jsx", "typescript", "ts", "tsx", "node", "mjs"]
  multilineDelimiters := ['\x60']
  decisions := bracedDecisions ++ [("?." : Pattern)]
  functions := [
    wordEdge ++ "function" ++ blanks ++ optional "*" ++ blanks ++ capture .name identifier ++
      parameterList,
    wordEdge ++ oneOf ["const", "let", "var"] ++ blanks1 ++ capture .name identifier ++ blanks ++
      optional (":" ++ many1 (noneOf "=")) ++ "=" ++ blanks ++ optional ("async" ++ blanks1) ++
      optional ("function" ++ wordEdge ++ many (noneOf "(")) ++ "(" ++
      capture .parameters (many (noneOf ")")) ++ ")" ++ blanks ++
      optional (":" ++ blanks ++ many1 (noneOf "=\x7b")) ++ oneOf ["=>", "\x7b"],
    wordEdge ++ oneOf ["const", "let", "var"] ++ blanks1 ++ capture .name identifier ++ blanks ++
      "=" ++ blanks ++ optional ("async" ++ blanks1) ++ capture .parameters identifier ++ blanks ++
      "=>",
    start ++ blanks ++
      many (oneOf ["public", "private", "protected", "static", "async", "readonly", "get", "set"] ++
        blanks1) ++
      capture .name identifier ++ parameterList ++ blanks ++
      optional (":" ++ blanks ++ many1 (noneOf "\x7b")) ++ "\x7b" ++ blanks ++ finish]
  classes :=
    [wordEdge ++ oneOf ["class", "interface", "enum"] ++ blanks1 ++ capture .name identifier]
  blockKeywords := bracedKeywords
  nullableMarkers := ["null", "undefined", "any", "?"]
  nullLiterals := ["null", "undefined"]
  safeGlobals := scriptGlobals

def java : Language where
  name := "java"
  aliases := ["kotlin", "csharp", "c#", "cs", "scala"]
  decisions := bracedDecisions ++ [wholeWord "throws"]
  functions := [
    start ++ blanks ++ many ("@" ++ many1 wordChar ++ blanks1) ++
      many (oneOf ["public", "private", "protected", "static", "final", "abstract", "synchronized",
        "native", "default", "override", "virtual", "async"] ++ blanks1) ++
      optional ("<" ++ many1 (noneOf ">") ++ ">" ++ blanks1) ++
      optional (many1 (wordCharOr "<>[],.?") ++ blanks1) ++ declaredName ++ parameterList ++
      blanks ++
      optional ("throws" ++ blanks1 ++
        many1 (one fun c => Text.isWordChar c || c == '.' || c == ',' || Text.isBlank c)) ++
      blanks ++ optional "\x7b" ++ blanks ++ finish]
  classes := [wordEdge ++ oneOf ["class", "interface", "enum", "record"] ++ blanks1 ++ declaredName]
  blockKeywords := bracedKeywords
  namePosition := .last
  nonNullableTypes := primitiveTypes
  safeGlobals :=
    ["System", "Math", "String", "Integer", "Long", "Double", "Boolean", "Arrays", "Collections",
      "List", "Map", "Set", "Objects", "Optional", "Thread", "this", "super", "Console"]

def c : Language where
  name := "c"
  aliases := ["cpp", "c++", "cc", "cxx", "h", "hpp", "objective-c"]
  decisions := bracedDecisions
  functions := [
    start ++ blanks ++
      many (oneOf ["static", "inline", "extern", "const", "unsigned", "signed", "struct",
        "virtual", "constexpr"] ++ blanks1) ++
      many1 (wordCharOr ":<>") ++ many1 (one fun c => Text.isBlank c || c == '*' || c == '&') ++
      capture .name (many1 (wordCharOr ":~")) ++ parameterList ++ blanks ++
      optional ("const" ++ blanks) ++ optional ("noexcept" ++ blanks) ++ optional "\x7b" ++
      blanks ++ finish]
  classes := [
    start ++ blanks ++ optional ("typedef" ++ blanks1) ++ oneOf ["struct", "class", "union"] ++
      blanks1 ++ declaredName ++ blanks ++ optional "\x7b" ++ blanks ++ finish]
  blockKeywords := bracedKeywords
  namePosition := .last
  nonNullableTypes := primitiveTypes
  nullableMarkers := ["*"]
  nullableByDefault := false
  nullLiterals := ["NULL", "nullptr"]
  safeGlobals := ["std", "this"]
  memberOperators := [".", "->"]
  directiveMark := "#"

def go : Language where
  name := "go"
  aliases := ["golang"]
  multilineDelimiters := ['\x60']
  decisions :=
    [wholeWord "if", wholeWord "for", wholeWord "case", defaultLabel] ++ logicalOperators
  functions := [
    start ++ blanks ++ "func" ++ blanks1 ++
      optional ("(" ++ many (noneOf ")") ++ ")" ++ blanks) ++ declaredName ++ blanks ++
      optional ("[" ++ many (noneOf "]") ++ "]") ++ parameterList]
  classes := [
    start ++ blanks ++ "type" ++ blanks1 ++ declaredName ++ blanks1 ++
      oneOf ["struct", "interface"] ++ wordEdge]
  blockKeywords :=
    [("if", .conditional), ("else", .alternative), ("for", .loop), ("switch", .switch),
      ("select", .switch)]
  nullableMarkers := ["*"]
  nullableByDefault := false
  nullLiterals := ["nil"]
  safeGlobals :=
    ["fmt", "os", "strings", "strconv", "errors", "time", "math", "http", "json", "log", "sync",
      "context", "io", "bytes", "sort"]

def rust : Language where
  name := "rust"
  aliases := ["rs"]
  stringDelimiters := ['"']
  decisions := [wholeWord "if", wholeWord "for", wholeWord "while", "=>"] ++ logicalOperators
  functions := [
    start ++ blanks ++ visibility ++ optional ("const" ++ blanks1) ++
      optional ("async" ++ blanks1) ++ optional ("unsafe" ++ blanks1) ++ "fn" ++ blanks1 ++
      declaredName ++ blanks ++ optional ("<" ++ many (noneOf ">") ++ ">") ++ parameterList]
  classes := [
    start ++ blanks ++ visibility ++ oneOf ["struct", "enum", "trait"] ++ blanks1 ++ declaredName]
  blockKeywords :=
    [("if", .conditional), ("else", .alternative), ("for", .loop), ("while", .loop),
      ("loop", .loop), ("match", .switch)]
  nullableByDefault := false
  nullLiterals := []
  safeGlobals := ["self", "Self", "std", "Vec", "String", "Option", "Result", "Box"]

def ruby : Language where
  name := "ruby"
  aliases := ["rb"]
  lineComments := ["#"]
  blockComments := [("=begin", "=end")]
  decisions :=
    [wholeWord "if", wholeWord "elsif", wholeWord "unless", wholeWord "while", wholeWord "until",
      wholeWord "for", wholeWord "when", wholeWord "rescue", wholeWord "and", wholeWord "or"] ++
      logicalOperators ++ [ternary]
  functions := [
    start ++ blanks ++ "def" ++ blanks1 ++ optional "self." ++
      capture .name (many1 (wordCharOr "?!")) ++ blanks ++
      optional ("(" ++ capture .parameters (many (noneOf ")")) ++ ")")]
  classes := [
    start ++ blanks ++ oneOf ["class", "module"] ++ blanks1 ++
      capture .name (many1 (wordCharOr ":"))]
  blockStyle := .keywords
  blockKeywords :=
    [("if", .conditional), ("unless", .conditional), ("elsif", .alternative),
      ("else", .alternative), ("while", .loop), ("until", .loop), ("for", .loop),
      ("case", .switch), ("begin", .attempt), ("rescue", .handler), ("ensure", .cleanup),
      ("def", .other), ("class", .other), ("module", .other)]
  nullLiterals := ["nil"]
  safeGlobals := ["self", "Math", "File", "JSON", "Time", "Kernel"]

/-- The language of code that names none, with what most languages have in common. -/
def generic : Language where
  name := "generic"
  aliases := ["universal", "text", "plaintext", "unknown", ""]
  lineComments := ["//", "#"]
  multilineDelimiters := ['\x60']
  decisions := bracedDecisions ++ [wholeWord "elif", wholeWord "except"]
  functions := [
    wordEdge ++ "function" ++ blanks1 ++ capture .name identifier ++ parameterList,
    defDeclaration,
    start ++ blanks ++ "func" ++ blanks1 ++
      optional ("(" ++ many (noneOf ")") ++ ")" ++ blanks) ++ declaredName ++ parameterList,
    start ++ blanks ++
      many (oneOf ["public", "private", "protected", "static", "final"] ++ blanks1) ++
      many1 (wordCharOr "<>[]") ++ blanks1 ++ declaredName ++ parameterList ++ blanks ++ "\x7b" ++
      blanks ++ finish]
  classes := [wordEdge ++ oneOf ["class", "struct", "interface"] ++ blanks1 ++ declaredName]
  blockKeywords := bracedKeywords
  namePosition := .last
  nonNullableTypes := primitiveTypes
  nullLiterals := ["null", "undefined", "None", "nil", "NULL"]
  safeGlobals := scriptGlobals ++ (["self", "System", "std"] : List Text)
  directiveMark := "#"

/-- Every language, the fallback last. -/
def table : List Language := [python, javascript, java, c, go, rust, ruby, generic]

end SourceGrade.Language
