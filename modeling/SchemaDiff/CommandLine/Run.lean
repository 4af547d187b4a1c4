import SchemaDiff.CommandLine.Usage
import SchemaDiff.Comparison.Report
import SchemaDiff.Database.Introspection
import SchemaDiff.Files.Source
/-
A whole run of the program. Both inputs are read before anything is written; then the outputs asked
for are made one after another, and the first that cannot be made ends the run.
-/
namespace SchemaDiff.CommandLine
open SchemaDiff.Text SchemaDiff.Log SchemaDiff.Files

/-- Where a run takes place. -/
structure Surroundings where
  tree : Tree
  lexer : Sql.Lexer
  /-- The database behind a URL, or why it cannot be reached. -/
  connect : Text → Except Text Database.Connection
  now : Instant
  terminal : Bool := false

structure Outcome where
  exitCode : Nat
  output : Text
  messages : Text
  tree : Tree

inductive RunError where
  | source (e : SourceError)
  | noPath
  | noUrl
  | database (e : Database.DatabaseError)
  | output (path : Text) (obstacle : Obstacle)
deriving DecidableEq, Repr

def RunError.message : RunError → Text
  | source e => e.message
  | noPath => "stat: path should be string, bytes, os.PathLike or integer, not list"
  | noUrl => "'list' object has no attribute 'startswith'"
  | database e => e.message
  | output path obstacle => obstacle.message path

structure Inputs where
  source : Schema
  target : Schema
  sourceName : Text

def readPath (s : Surroundings) (path : Given) (label : Text) : Logged (Except RunError Schema) := do
  match path with
  | .dropped => return .error .noPath
  | .text path =>
    match ← readSource s.tree path with
    | .error e => return .error (.source e)
    | .ok script => return .ok (← Log.readSchema s.lexer label script)

def readDatabase (s : Surroundings) (url : Given) (label : Text) :
    Logged (Except RunError (Schema × Text)) := do
  match url with
  | .dropped => return .error .noUrl
  | .text url =>
    match s.connect (Database.withDriver url) with
    | .error reason => return .error (.database (.unreachable reason))
    | .ok connection =>
      match ← connection.schema s.lexer label none with
      | .error e => return .error (.database e)
      | .ok schema => return .ok (schema, connection.url)

def readFirst (s : Surroundings) (a : Arguments) : Logged (Except RunError (Schema × Text)) := do
  if a.command = "compare" then
    return (← readPath s a.source a.sourceLabel.shown).map fun schema =>
      (schema, displayName a.source.shown)
  else readDatabase s a.source a.sourceLabel.shown

def readInputs (s : Surroundings) (a : Arguments) : Logged (Except RunError Inputs) := do
  match ← readFirst s a with
  | .error e => return .error e
  | .ok (source, sourceName) =>
    match ← readPath s a.target a.targetLabel.shown with
    | .error e => return .error e
    | .ok target => return .ok { source, target, sourceName }

inductive Output where
  | show (t : Text)
  | save (path content announcement : Text)
deriving DecidableEq, Repr

def jsonText (c : Comparison) : Text := c.toJson.write (.indented 2)

def scriptText (c : Comparison) : Text :=
  "-- Statements reconciling " ++ c.sourceLabel ++ " and " ++ c.targetLabel ++ "\n"
  ++ joinStatements c.statements ++ "\n"

def saving (path : Option Given) (content announcement : Text) : List Output :=
  match present (path.bind Given.text?) with
  | none => []
  | some path => [.save path content (announcement ++ " saved to " ++ path)]

def noOutput : Text :=
  "No output action specified. Use --plan, --json-out, --sql-out or --report-out."

def outputs (a : Arguments) (sourceName : Text) (c : Comparison) (now : Instant) : List Output :=
  let palette := if a.noColor then Comparison.Palette.plain else .coloured
  let asked :=
    (if a.plan then [Output.show (c.plan palette)] else [])
    ++ saving a.jsonOut (jsonText c) "JSON comparison"
    ++ saving a.sqlOut (scriptText c) "Migration SQL"
    ++ saving a.reportOut (c.report sourceName (displayName a.target.shown) now) "Report"
  if asked = [] then [.show noOutput] else asked

/-- Makes outputs one after another, each announced on a line of its own; the result is what was
shown, the tree, and what stopped the rest. -/
def make (tree : Tree) : List Output → Text × Tree × Option RunError
  | [] => ([], tree, none)
  | .show t :: rest =>
    let (shown, result) := make tree rest
    (t ++ '\n' :: shown, result)
  | .save path content announcement :: rest =>
    match tree.write path (encode content) with
    | .error obstacle => ([], tree, some (.output path obstacle))
    | .ok tree =>
      let (shown, result) := make tree rest
      (announcement ++ '\n' :: shown, result)

def cliLogger : Text := loggerName (some "cli")

def started (a : Arguments) : Event where
  logger := cliLogger
  level := debug
  message :=
    "Command=" ++ a.command ++ ", Source=" ++ a.source.shown ++ ", Target=" ++ a.target.shown

def failed : Event where
  logger := cliLogger
  level := debug
  message := "Comparison failed"

def execute (s : Surroundings) (a : Arguments) : Logged (Text × Tree × Option RunError) := do
  Logged.emit (started a)
  let result ← do
    match ← readInputs s a with
    | .error e => pure ([], s.tree, some e)
    | .ok inputs =>
      let c ← Log.compare { collations := !a.noCollation } inputs.source inputs.target
      pure (make s.tree (outputs a inputs.sourceName c s.now))
  if result.2.2.isSome then Logged.emit failed
  return result

/-- A whole run: usage errors end it with exit code 2, all other failures with 1. -/
def run (s : Surroundings) (arguments : List Text) : Outcome :=
  match readArguments arguments with
  | .error .help => ⟨0, help, [], s.tree⟩
  | .error .version => ⟨0, version ++ "\n", [], s.tree⟩
  | .error (.usage e) => ⟨2, [], usage ++ "sqompare: error: " ++ e.message ++ "\n", s.tree⟩
  | .ok a =>
    let setup := Setup.ofOptions a.verbose a.logFormat.shown a.noColor s.terminal
    let ⟨events, shown, tree, error⟩ := execute s a
    let log := setup.write s.now events
    match error with
    | none => ⟨0, shown, log, tree⟩
    | some e => ⟨1, shown, log ++ "Error: " ++ e.message ++ "\n", tree⟩

end SchemaDiff.CommandLine
