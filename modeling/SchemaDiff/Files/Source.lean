import SchemaDiff.Files.Glob
import SchemaDiff.Log
import SchemaDiff.Text.Utf8
/-
Reading an input: one file, or all the `.sql` files below a directory one after another.
-/
namespace SchemaDiff.Files
open SchemaDiff.Text SchemaDiff.Log

inductive SourceError where
  | notFound (path : Text)
  | noScripts (directory : Text)
  | notText (path : Text)
  | unreadable (path : Text) (obstacle : Obstacle)
deriving DecidableEq, Repr

def failure (path reason : Text) : Text := reason ++ ": " ++ path

def defaultReason : Text := "Failed to read source"

def SourceError.message : SourceError → Text
  | notFound path => failure path "Path not found"
  | noScripts directory => failure directory "No .sql files found in directory"
  | notText path => failure path "File is not valid text"
  | unreadable path obstacle => obstacle.message path

def reading (path : Text) : Event where
  logger := loggerName (some "cli")
  level := debug
  message := "Reading SQL source"
  context := { operation := some (.text "read"), file := some (.text path) }

def readFile (tree : Tree) (path : Text) : Except SourceError Text :=
  match tree.read path with
  | .error obstacle => .error (.unreadable path obstacle)
  | .ok bytes =>
    match ofFile bytes with
    | some t => .ok t
    | none => .error (.notText path)

def sources (tree : Tree) (path : Text) : Except SourceError (List Text) :=
  if tree.isFile path then .ok [path]
  else if tree.isDirectory path then
    match glob tree (join path "**/*.sql") with
    | [] => .error (.noScripts path)
    | files => .ok files
  else .error (.notFound path)

def readFiles (tree : Tree) : List Text → Logged (Except SourceError (List Text))
  | [] => return .ok []
  | path :: paths => do
    Logged.emit (reading path)
    match readFile tree path with
    | .error e => return .error e
    | .ok t => return (← readFiles tree paths).map (t :: ·)

/-- The text of an input; line feeds join the texts of its files. -/
def readSource (tree : Tree) (path : Text) : Logged (Except SourceError Text) :=
  match sources tree path with
  | .error e => return .error e
  | .ok files => return (← readFiles tree files).map lines

end SchemaDiff.Files
