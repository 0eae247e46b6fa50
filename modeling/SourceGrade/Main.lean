import SourceGrade.CommandLine.Run
/-!
# The program

Reads what a command looks at, carries the command out, and writes what it leaves.
-/

namespace SourceGrade

/-- What is found at a path on disk. -/
def readEntry (path : Text) : IO FileEntry := do
  try
    return .file (← IO.FS.readBinFile (String.ofList path)).toList
  catch e =>
    match e with
    | .noFileOrDirectory .. => return .missing
    | _ => return .directory

/-- The tree of what is found at some paths, `base` being put before each on disk. -/
def readTree (base : Text) (paths : List Text) : IO FileTree := do
  let mut tree : FileTree := .ofFiles []
  for path in paths do
    match ← readEntry (base ++ path) with
    | .missing => pure ()
    | .unnameable => pure ()
    | .directory => tree := { tree with directories := Path.steps path :: tree.directories }
    | .file bytes => tree := { tree with files := (Path.steps path, bytes) :: tree.files }
  return tree

/-- The variables that can hold settings. -/
def readVariables : IO (List (Text × Text)) :=
  ConfigurationField.all.filterMapM fun f => do
    return (← IO.getEnv (String.ofList f.variableName)).map fun v => (f.variableName, v.toList)

/-- Everything on an input, after what is read already. -/
partial def readAll (input : IO.FS.Stream) (sofar : ByteArray) : IO ByteArray := do
  let bytes ← input.read 65536
  if bytes.isEmpty then return sofar else readAll input (sofar ++ bytes)

/-- The directory in which a path lies. -/
def directoryOf (path : Text) : Text :=
  match (path.reverse.dropWhile (· != '/')).reverse with
  | [] => "."
  | d => d

/-- The paths that a command looks at. -/
def Command.paths : Command → List Text
  | cacheInfo config? _ => config?.toList
  | analyze request =>
    request.path :: request.config?.toList ++
      request.output?.toList.flatMap fun path => [path, directoryOf path]
  | _ => []

/-- Whether a command reads the input. -/
def Command.readsInput : Command → Bool
  | analyze request => request.path = ("-" : Text)
  | _ => false

/-- What a command can see. -/
def surroundingsOf (c : Command) : IO Surroundings := do
  let home ← IO.getEnv "HOME"
  let input ← if c.readsInput then readAll (← IO.getStdin) .empty else pure .empty
  return {
    home := ← readTree ((home.getD ".").toList ++ ['/']) [SettingSources.globalPath]
    working := ← readTree [] (SettingSources.projectPath :: c.paths)
    environment := ← readVariables
    input := input.toList }

/-- Writes what a command leaves, and gives the exit code. -/
def leave (o : Outcome) : IO UInt32 := do
  IO.print (String.ofList o.output)
  match o.written? with
  | some (path, t) => IO.FS.writeFile (String.ofList path) (String.ofList t)
  | none => pure ()
  if o.exitCode = 2 then IO.eprint (String.ofList Command.usageText)
  return UInt32.ofNat o.exitCode

end SourceGrade

open SourceGrade in
def main (args : List String) : IO UInt32 := do
  let words := args.map (·.toList)
  match Command.parse words with
  | .error _ => leave (.usage none)
  | .ok command => leave (runCommandLine (← surroundingsOf command) words)
