import SourceGrade.Hazard.Evidence
/-!
# Leaked resources

A resource that is kept under a name is reported when the unit never releases that name. Lines whose
resources are released by the language are left out.
-/

namespace SourceGrade.Resource

open Pattern

/-- A kind of resource: how it is acquired, and how a name of it is released. -/
structure Kind where
  acquisition : Pattern
  release : Pattern → Pattern

/-- The beginning of an assignment to a name. -/
def assigned : Pattern := capture .name plainName ++ blanks ++ "=" ++ blanks

/-- A type in parentheses before a value. -/
def cast : Pattern := optional ("(" ++ many (noneOf ")") ++ ")" ++ blanks)

/-- The release of a name by its method `close`. -/
def closed (name : Pattern) : Pattern := wordEdge ++ name ++ ".close" ++ call

/-- The release of a name by a function. -/
def releasedBy (function : String) (name : Pattern) : Pattern :=
  wordEdge ++ (function : Pattern) ++ call ++ blanks ++ name ++ wordEdge

def kinds : List Kind :=
  [⟨assigned ++ "open" ++ call, closed⟩,
    ⟨assigned ++ "new" ++ blanks1 ++
      oneOf ["FileInputStream", "FileOutputStream", "FileReader", "FileWriter", "BufferedReader",
        "BufferedWriter", "PrintWriter", "Scanner", "Socket", "ServerSocket", "RandomAccessFile",
        "ZipFile"] ++ wordEdge, closed⟩,
    ⟨assigned ++ cast ++ "fopen" ++ call, releasedBy "fclose"⟩,
    ⟨assigned ++ cast ++ oneOf ["malloc", "calloc", "realloc"] ++ call, releasedBy "free"⟩,
    ⟨capture .name plainName ++ blanks ++ "," ++ blanks ++ many1 wordChar ++ blanks ++
      optional ":" ++ "=" ++ blanks ++
      ("os." ++ oneOf ["Open", "Create", "OpenFile"] ||| "net.Dial" ++ many wordChar |||
        "sql.Open") ++ call,
      fun name => wordEdge ++ name ++ ".Close" ++ call⟩,
    ⟨capture .name identifier ++ blanks ++ "=" ++ blanks ++ "fs." ++
      oneOf ["openSync", "createReadStream", "createWriteStream"] ++ call,
      fun name => wordEdge ++ name ++ "." ++ oneOf ["close", "end", "destroy"] ++ call |||
        releasedBy "fs.closeSync" name⟩,
    ⟨assigned ++ oneOf ["socket.socket", "sqlite3.connect", "psycopg2.connect"] ++ call, closed⟩]

/-- Acquisitions that the language releases. -/
def managed : Pattern :=
  wordEdge ++ "try" ++ call ||| wholeWord "with" ||| wordEdge ++ "using" ++ call |||
    wholeWord "defer"

/-- The name that a line acquires, when no statement releases it. -/
def leaked? (statements : List SourceLine) (l : SourceLine) : Option Text := do
  if managed.occursIn l.code then none
  else
    let (kind, name) ← kinds.findSome? fun kind =>
      (kind.acquisition.search l.code).map fun m => (kind, m.textOf .name)
    let release := kind.release (literal name)
    if statements.any fun n => release.occursIn n.code then none else some name

def issues (i : Inspection) : List Issue :=
  i.statements.filterMap fun l =>
    (leaked? i.statements l).map fun name =>
      i.issueAt .runtime .major ("'" ++ name ++ "' is acquired but never released") l Rule.resource

end SourceGrade.Resource
