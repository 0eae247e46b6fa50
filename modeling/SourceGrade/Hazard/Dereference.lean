import SourceGrade.Hazard.Evidence
import SourceGrade.Text.Case
/-!
# Unguarded dereferences

A member of a value that may be null is reported where it is first used, unless the value is tested
before. Parameters may be null by their declaration, local variables by what they are given. A line
that speaks of a crash makes the issue critical.
-/

namespace SourceGrade.Dereference

open Pattern

/-- An assignment, perhaps a declaration, with the value that is given. -/
def assignment : Pattern :=
  start ++ optional (oneOf ["const", "let", "var", "final", "auto", "val"] ++ blanks1) ++
    optional (many1 (wordCharOr "<>[],") ++ blanks1) ++ capture .name identifier ++ blanks ++
    optional (":" ++ many1 (noneOf "=")) ++ oneOf [":=", "="] ++ notAhead "=" ++ blanks ++
    optional ("await" ++ blanks1) ++ capture .value (many1 inLine) ++ finish

/-- Values that may be null: its words, and the results of searches. -/
def nullableValue : Pattern :=
  start ++ nullWord ++ wordEdge |||
    "." ++ oneOf ["find", "findOne", "getElementById", "querySelector", "match", "exec", "search",
      "getAttribute", "getItem", "getenv"] ++ call |||
    notAfterText "requests" ++ notAfterText "session" ++ notAfterText "client" ++
      notAfterText "axios" ++ notAfterText "http" ++ ".get" ++ call |||
    wordEdge ++ "re." ++ oneOf ["match", "search", "fullmatch"] ++ call |||
    wordEdge ++ "getenv" ++ call

/-- A name that may be null from a line on. -/
structure Candidate where
  name : Text
  since : Nat
  deriving DecidableEq, Repr

/-- The variables that are given a value that may be null, each from its first such assignment
on. -/
def localsFrom (seen : List Text) : List SourceLine → List Candidate
  | [] => []
  | l :: ls =>
    match assignment.matchStart l.stripped with
    | none => localsFrom seen ls
    | some m =>
      let name := m.textOf .name
      if seen.contains name then localsFrom seen ls
      else if nullableValue.occursIn (m.textOf .value) then
        ⟨name, l.number + 1⟩ :: localsFrom (name :: seen) ls
      else localsFrom seen ls

/-- The statements in which some candidates are looked for. -/
structure Scope where
  statements : List SourceLine
  candidates : List Candidate

/-- The scope of a function: its parameters and its variables. -/
def scopeOf (i : Inspection) (f : FunctionSpan) : Scope :=
  let statements := i.statements.filter fun l => f.contains l.number
  ⟨statements, f.nullableParameters.map (⟨·, f.startLine + 1⟩) ++ localsFrom [] statements⟩

/-- The scopes of a unit: its functions, or all of it when it has none. -/
def scopes (i : Inspection) : List Scope :=
  match i.functions with
  | [] => [⟨i.statements, localsFrom [] i.statements⟩]
  | f :: fs => (f :: fs).map (scopeOf i)

/-- The use of a member of a name. -/
def memberAccess (language : Language) (name : Text) : Pattern :=
  notAfter (fun c => isIdentifierChar c || c == '.' || c == '?' || c == '&') ++ literal name ++
    blanks ++ oneOf (language.memberOperators.map String.ofList) ++ blanks ++ one isIdentifierStart

/-- What shows that a name is not null. -/
def guards (name : Text) : List Pattern :=
  let t := term name
  [t ++ blanks ++
      ("!=" ++ optional "=" ||| "==" ++ optional "=" |||
        wordEdge ++ "is" ++ blanks1 ++ "not" ++ wordEdge ||| wholeWord "is") ++ blanks ++ nullWord,
    nullWord ++ blanks ++ ("!=" ++ optional "=" ||| "==" ++ optional "=") ++ blanks ++ t,
    truthinessCheck t,
    t ++ blanks ++ ("&&" ||| wholeWord "and" ||| "??" ||| "||" ||| wholeWord "or"),
    oneOf ["requireNonNull", "isinstance", "assert", "typeof", "nonNull", "hasattr", "isset"] ++
      blanks ++ optional "(" ++ blanks ++ t,
    "@" ++ oneOf ["NonNull", "NotNull", "Nonnull"] ++ wordEdge ++ many (noneOf ",)") ++ t,
    t ++ blanks ++ oneOf ["?.", "&."],
    t ++ "." ++ oneOf ["is_none", "is_some", "nil?"],
    start ++ blanks ++ literal name ++ blanks ++ oneOf [":=", "="] ++ notAhead "=" ++ blanks ++
      notAhead (nullWord ++ wordEdge) ++
      notAhead (many inLine ++ oneOf [".get", ".find", "getenv"] ++ "(")]

/-- Words on a line that speak of a crash. -/
def crashWords : List Text := ["crash", "abort", "corrupt", "fatal"]

/-- The first use of a candidate, unless the candidate is known to be safe or tested before. -/
def use? (i : Inspection) (s : Scope) (c : Candidate) : Option (Text × SourceLine) := do
  if i.source.language.safeGlobals.contains c.name then none
  else
    let access := memberAccess i.source.language c.name
    let l ← s.statements.find? fun l => c.since ≤ l.number && access.occursIn l.code
    if guarded (guards c.name) s.statements l.number then none else some (c.name, l)

def issueOf (i : Inspection) (name : Text) (l : SourceLine) : Issue :=
  let crashProne := crashWords.any fun word => Text.occurs word (Text.lower l.raw)
  i.issueAt .runtime (if crashProne then .critical else .major)
    ("'" ++ name ++ "' is dereferenced without a null check" ++
      (if crashProne then (" on a crash-prone path" : Text) else []))
    l Rule.dereference

/-- The issues of dereferences, each name once in its scope. A language without words for the
absence of a value has none. -/
def issues (i : Inspection) : List Issue :=
  if i.source.language.nullLiterals.isEmpty then []
  else
    (scopes i).flatMap fun s =>
      (firstOfKey (·.1) [] (s.candidates.filterMap (use? i s))).map fun (name, l) =>
        issueOf i name l

end SourceGrade.Dereference
