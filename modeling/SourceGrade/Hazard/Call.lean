import SourceGrade.Hazard.Evidence
/-!
# Risky calls and unchecked input

A call that parses, opens files or uses the network is reported outside error handling, unless the
code next to it looks at errors. Input from the user is reported when the unit checks nothing at
all.
-/

namespace SourceGrade

open Pattern

namespace RiskyCall

def parsing : Pattern :=
  wordEdge ++ "JSON.parse" ++ call ||| wordEdge ++ "json.load" ++ optional "s" ++ call |||
    wordEdge ++ oneOf ["Integer", "Long", "Double", "Float"] ++ "." ++ oneOf ["parse", "valueOf"] ++
      many wordChar ++ call |||
    wordEdge ++ ("yaml." ++ optional "safe_" ++ "load" ||| "pickle.load" ++ optional "s") ++
      call |||
    wordEdge ++ "strconv." ++ ("Atoi" ||| "Parse" ++ many1 wordChar) ++ call |||
    ".unwrap" ++ call ++ blanks ++ ")" ||| wordEdge ++ "int" ++ call ++ blanks ++ "input" ++ call

def fileAccess : Pattern :=
  notAfterMember ++ "open" ++ call ||| wordEdge ++ "fs." ++ many1 wordChar ++ "Sync" ++ call |||
    wordEdge ++ "new" ++ blanks1 ++ "File" ++ oneOf ["Input", "Output"] ++ "Stream" ++ call |||
    wordEdge ++ "new" ++ blanks1 ++ "File" ++ oneOf ["Reader", "Writer"] ++ call |||
    wordEdge ++ "Files." ++ oneOf ["read", "write", "lines", "newBuffered"] ++ many wordChar ++
      call |||
    wordEdge ++ "fopen" ++ call |||
    wordEdge ++ "os." ++ oneOf ["Open", "ReadFile", "Create"] ++ call |||
    wordEdge ++ "ioutil.ReadFile" ++ call |||
    wordEdge ++ "File." ++ oneOf ["open", "read", "write"] ++ call |||
    wordEdge ++ "File::" ++ oneOf ["open", "create"] ++ call |||
    wordEdge ++ "fs::read" ++ many wordChar ++ call

def networkAccess : Pattern :=
  notAfterMember ++ "fetch" ++ call |||
    wordEdge ++ "axios" ++ optional ("." ++ many1 wordChar) ++ call |||
    wordEdge ++ "requests." ++ many1 wordChar ++ call ||| wordEdge ++ "urlopen" ++ call |||
    wordEdge ++ "http." ++ oneOf ["get", "request", "Get", "Post"] ++ call |||
    wordEdge ++ "new" ++ blanks1 ++ "Socket" ++ call ||| wordEdge ++ "socket.socket" ++ call |||
    wordEdge ++ "new" ++ blanks1 ++ "XMLHttpRequest" ++ call

/-- The kinds of risky calls with what is said about them. -/
def kinds : List (Pattern × Text) :=
  [(parsing, "Parsing call without error handling fails on malformed input"),
    (fileAccess, "File operation without error handling"),
    (networkAccess, "Network call without error handling")]

/-- Code that looks at errors. -/
def errorCheck : Pattern :=
  ".catch" ++ call ||| wordEdge ++ "err" ++ blanks ++ "!=" ++ blanks ++ "nil" |||
    wordEdge ++ "if" ++ blanks1 ++ "err" ++ wordEdge ||| ")" ++ blanks ++ "?" |||
    ".ok" ++ call ++ blanks ++ ")" ||| ".unwrap_or" ++ many wordChar ++ call |||
    wholeWord "rescue" ||| ".then" ++ call ++ many (noneOf ")") ++ "," ||| wholeWord "except"

/-- The lines after a call on which errors may be looked at. -/
def checkWindow : Nat := 3

/-- The issues of the calls on some statements. -/
def issuesFrom (i : Inspection) : List SourceLine → List Issue
  | [] => []
  | l :: ls =>
    (match if i.blocks.inErrorHandling l.number then none
        else kinds.find? fun (p, _) => p.occursIn l.code with
    | none => []
    | some (_, description) =>
      if ((l :: ls).take (checkWindow + 1)).any fun n => errorCheck.occursIn n.code then []
      else [i.issueAt .exception .major description l Rule.riskyCall]) ++
      issuesFrom i ls

def issues (i : Inspection) : List Issue := issuesFrom i i.statements

end RiskyCall

namespace UserInput

/-- Code that reads from the user. -/
def read : Pattern :=
  notAfterMember ++ "input" ++ call ||| wordEdge ++ "raw_input" ++ call |||
    wholeWord "sys.stdin" ||| notAfterMember ++ "prompt" ++ call |||
    notAfterMember ++ "readline" ++ call |||
    wholeWord "readline.createInterface" ||| wholeWord "process.stdin" |||
    wordEdge ++ "new" ++ blanks1 ++ "Scanner" ++ call ++ blanks ++ "System.in" |||
    wordEdge ++ "scanf" ++ call ||| notAfterMember ++ "gets" ++ wordEdge |||
    wordEdge ++ "fmt.Scan" ++ many wordChar ++ call ||| wordEdge ++ "read_line" ++ call

/-- Code that checks what was read. -/
def validation : Pattern :=
  wholeWord "try" ||| wholeWord "except" ||| wholeWord "catch" ||| wholeWord "rescue" |||
    wordEdge ++ "is" ++ oneOf ["digit", "numeric", "decimal", "alpha", "alnum"] ++ call |||
    wordEdge ++ "isNaN" ++ call |||
    wordEdge ++ "Number.is" ++ oneOf ["Finite", "Integer", "NaN"] ++ call |||
    wordEdge ++ "hasNext" ++ many wordChar ++ call ||| ".test" ++ call |||
    wordEdge ++ "re." ++ oneOf ["match", "fullmatch", "search"] ++ call |||
    wordEdge ++ "validat" ++ many wordChar |||
    wordEdge ++ "err" ++ blanks ++ "!=" ++ blanks ++ "nil" ||| ".is_ok" ++ call |||
    wordEdge ++ "scanf" ++ call ++ many (noneOf ")") ++ ")" ++ blanks ++
      oneOf ["!=", "==", "<", ">"] |||
    wordEdge ++ "match?" ++ call ||| "=~"

/-- The issues of reading from the user, one for each line that does. -/
def issues (i : Inspection) : List Issue :=
  if i.statements.any fun l => validation.occursIn l.code then []
  else
    (i.statements.filter fun l => read.occursIn l.code).map fun l =>
      i.issueAt .exception .major "User input is used without validation" l Rule.input

end UserInput

end SourceGrade
