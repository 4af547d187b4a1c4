import SchemaDiff.Instant
import SchemaDiff.Json
/-
Events that the program reports about its own work, how they are written, and which of them a given
set-up writes. An event may carry context, which both forms show in one fixed order.
-/
namespace SchemaDiff.Log
open SchemaDiff.Text

abbrev Level := Int

def debug : Level := 10

def info : Level := 20

def warning : Level := 30

def error : Level := 40

def critical : Level := 50

def levelName (level : Level) : Text :=
  if level = 0 then "NOTSET"
  else if level = debug then "DEBUG"
  else if level = info then "INFO"
  else if level = warning then "WARNING"
  else if level = error then "ERROR"
  else if level = critical then "CRITICAL"
  else "Level " ++ ofInt level

inductive Value where
  | absent
  | bool (b : Bool)
  | number (n : Int)
  | text (t : Text)
deriving DecidableEq, Repr

def Value.show : Value → Text
  | absent => "None"
  | bool b => if b then "True" else "False"
  | number n => ofInt n
  | text t => t

def Value.toJson : Value → Json
  | absent => .null
  | bool b => .bool b
  | number n => .number n
  | text t => .text t

/-- What an event is about: a table, an operation, an input, a file. -/
structure Context where
  table : Option Value := none
  operation : Option Value := none
  source : Option Value := none
  file : Option Value := none
deriving DecidableEq, Repr

namespace Context

def ofFields (fields : List (Text × Value)) : Context where
  table := fields.lookup (lit "table_name")
  operation := fields.lookup (lit "operation")
  source := fields.lookup (lit "source")
  file := fields.lookup (lit "file_path")

def fields (c : Context) : List (Text × Text × Option Value) := [
  ("table_name", "table", c.table),
  ("operation", "op", c.operation),
  ("source", "source", c.source),
  ("file_path", "file", c.file)]

def entries (c : Context) : List (Text × Text × Value) :=
  c.fields.filterMap fun (key, label, value) => value.map (key, label, ·)

def jsonFields (c : Context) : List (Text × Json) :=
  c.entries.map fun (key, _, value) => (key, value.toJson)

end Context

def loggerName (name : Option Text) : Text :=
  match name with
  | none | some [] => "sqompare"
  | some name => "sqompare." ++ name

structure Event where
  logger : Text
  level : Level
  message : Text
  context : Context := {}
  failure : Option (Text × Text) := none
deriving DecidableEq, Repr

inductive Format where
  | json
  | text (colour : Bool)
deriving DecidableEq, Repr

def colourOf (level : Level) : Option Text :=
  if level = debug then some "\x1b[36m"
  else if level = info then some "\x1b[32m"
  else if level = warning then some "\x1b[33m"
  else if level = error then some "\x1b[31m"
  else if level = critical then some "\x1b[35m"
  else none

def tag (colour : Bool) (level : Level) : Text :=
  let plain := "[" ++ levelName level ++ "]"
  match colour, colourOf level with
  | true, some code => code ++ plain ++ "\x1b[0m"
  | _, _ => plain

def failureText : Text × Text → Text
  | (kind, []) => kind
  | (kind, text) => kind ++ ": " ++ text

def Event.jsonFields (now : Instant) (e : Event) : List (Text × Json) := [
  ("timestamp", .text (now.iso "Z")),
  ("level", .text (levelName e.level)),
  ("logger", .text e.logger),
  ("message", .text e.message)]

def Event.json (now : Instant) (e : Event) : Json :=
  let failure : List (Text × Json) :=
    match e.failure with
    | some f => [("exception", .text (failureText f))]
    | none => []
  .object (e.jsonFields now ++ e.context.jsonFields ++ failure)

def Event.plain (colour : Bool) (e : Event) : Text :=
  let pairs := e.context.entries.map fun (_, label, value) => label ++ "=" ++ value.show
  tag colour e.level ++ " " ++ e.message
  ++ provided (pairs ≠ []) (" [" ++ (lit ", ").intercalate pairs ++ "]")

def Event.write (now : Instant) (e : Event) : Format → Text
  | .json => (e.json now).write .oneLine
  | .text colour => e.plain colour

structure Setup where
  threshold : Level
  format : Format
deriving DecidableEq, Repr

namespace Setup

def ofOptions (verbose : Int) (format : Text) (noColour terminal : Bool) : Setup where
  threshold := if verbose ≤ 0 then warning else if verbose = 1 then info else debug
  format := if format = "json" then .json else .text (!noColour && terminal)

def write (setup : Setup) (now : Instant) (events : List Event) : Text :=
  (events.filter (setup.threshold ≤ ·.level)).flatMap fun e => e.write now setup.format ++ ['\n']

end Setup

/-- A result together with the events on the way to it. -/
structure Logged (α : Type) where
  events : List Event
  result : α

namespace Logged

def just {α : Type} (a : α) : Logged α := ⟨[], a⟩

def andThen {α β : Type} (x : Logged α) (f : α → Logged β) : Logged β :=
  ⟨x.events ++ (f x.result).events, (f x.result).result⟩

instance : Monad Logged where
  pure := just
  bind := andThen

def emit (e : Event) : Logged Unit := ⟨[e], ()⟩

end Logged

end SchemaDiff.Log
