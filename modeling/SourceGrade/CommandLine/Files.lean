import SourceGrade.Pattern.Build
/-!
# Files and paths

The files that a command can see, by their paths. A path is a text whose parts are separated by
slashes; the empty part and the part `.` stand for nothing.
-/

namespace SourceGrade

namespace Path

/-- The names in a path. -/
def names (path : Text) : List Text :=
  (Text.splitOn '/' path).filter fun p => !p.isEmpty && p ≠ ("." : Text)

/-- The slashes at the beginning of a path: none, one, or exactly two. -/
def root (path : Text) : Text :=
  match path.takeWhile (· == '/') with
  | [] => []
  | ['/', '/'] => "//"
  | _ => "/"

/-- The steps of a path: its root, if it has one, and its names. -/
def steps (path : Text) : List Text :=
  if (root path).isEmpty then names path else root path :: names path

/-- A path without parts that stand for nothing. -/
def normalize (path : Text) : Text :=
  match root path ++ Text.join "/" (names path) with
  | [] => "."
  | p => p

/-- The last part of a path. -/
def fileName (path : Text) : Text := (names path).getLastD []

/-- The ending of a file name from its last point on, when something stands on both sides. -/
def suffix (path : Text) : Text :=
  let name := fileName path
  let afterPoint := (name.reverse.takeWhile (· != '.')).reverse
  if afterPoint.isEmpty || name.length ≤ afterPoint.length + 1 then []
  else '.' :: afterPoint

open Pattern in
/-- A reference to a variable: its name after a dollar sign, perhaps in braces. -/
def variable_ : Pattern :=
  "$" ++ (capture .name (many1 (one fun c =>
      Text.isAsciiLetter c || Text.isAsciiDigit c || c == '_')) |||
    "\x7b" ++ capture .name (many (noneOf "\x7d")) ++ "\x7d")

/-- A path with the values of variables in place of references to them. A reference to an unknown
variable stays. -/
def expandVariables (environment : List (Text × Text)) (path : Text) : Text :=
  variable_.replaceAll (fun m => (environment.lookup (m.textOf .name)).getD m.text) path

/-- The bytes of the longest name and of the longest path of a file. -/
def maxNameBytes : Nat := 255

def maxPathBytes : Nat := 4095

/-- The bytes of a path in UTF-8. -/
def byteSize (path : Text) : Nat := (String.ofList path).utf8ByteSize

end Path

/-- What is found at a path. -/
inductive FileEntry where
  | missing
  /-- The path is too long for any file. -/
  | unnameable
  | directory
  | file (bytes : List UInt8)
  deriving DecidableEq, Repr

/-- Files and further directories, by the steps of their paths. -/
structure FileTree where
  files : List (List Text × List UInt8)
  directories : List (List Text) := []

namespace FileTree

/-- The files of some paths. -/
def ofFiles (files : List (Text × List UInt8)) : FileTree :=
  { files := files.map fun (path, bytes) => (Path.steps path, bytes) }

/-- Whether steps lead to a directory: there are none, or a file or directory is below them. -/
def isDirectory (t : FileTree) (steps : List Text) : Bool :=
  steps.isEmpty || t.directories.any (steps.isPrefixOf ·) ||
    t.files.any fun (p, _) => steps.isPrefixOf p && steps.length < p.length

/-- Follows steps from a directory, given by its own steps from the last on. The step `..` leads
back. -/
def follow? (t : FileTree) : (directory : List Text) → List Text → Option (List Text)
  | directory, [] => some directory.reverse
  | directory, p :: ps =>
    if !t.isDirectory directory.reverse then none
    else if p = (".." : Text) then
      match directory with
      | [] => none
      | _ :: d => follow? t d ps
    else follow? t (p :: directory) ps

/-- Whether steps from a directory come to a name that is too long before they come to a place that
is not there. The directory is given by its own steps from the last on. -/
def meetsLongName (t : FileTree) : (directory : List Text) → List Text → Bool
  | _, [] => false
  | directory, p :: ps =>
    t.isDirectory directory.reverse && (Path.maxNameBytes < Path.byteSize p ||
      meetsLongName t (if p = (".." : Text) then directory.tail else p :: directory) ps)

/-- Whether a path is too long for any file. -/
def isUnnameable (t : FileTree) (path : Text) : Bool :=
  Path.maxPathBytes < Path.byteSize (Path.normalize path) || t.meetsLongName [] (Path.steps path)

/-- What is found at a path. -/
def entry (t : FileTree) (path : Text) : FileEntry :=
  if t.isUnnameable path then .unnameable
  else
    match t.follow? [] (Path.steps path) with
    | none => .missing
    | some steps =>
      match t.files.lookup steps with
      | some bytes => .file bytes
      | none => if t.isDirectory steps then .directory else .missing

/-- The tree after a file was written. -/
def write (t : FileTree) (path : Text) (bytes : List UInt8) : FileTree :=
  match t.follow? [] (Path.steps path) with
  | none => t
  | some steps => { t with files := (steps, bytes) :: t.files.filter fun (p, _) => p ≠ steps }

/-- Whether a file can be written at a path: nothing but its directory has to be there. -/
def isWritable (t : FileTree) (path : Text) : Bool :=
  match t.entry path with
  | .directory => false
  | .unnameable => false
  | .file _ => true
  | .missing => (t.follow? [] (Path.steps path)).any fun steps => t.isDirectory steps.dropLast

end FileTree

end SourceGrade
