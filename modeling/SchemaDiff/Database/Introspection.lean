import SchemaDiff.Log.Activity
/-
Dumping the table definitions of a live database. The database is asked for one table after another,
and the replies make up a script that is read like any other. What makes a connection out of a URL is
not settled here.
-/
namespace SchemaDiff.Database
open SchemaDiff.Text SchemaDiff.Log

/-- A MySQL URL that names no driver gets the default one. -/
def withDriver (url : Text) : Text :=
  let bare : Text := "mysql://"
  if bare.isPrefixOf url then "mysql+pymysql://" ++ url.drop bare.length else url

/-- What a server has to say: the names of its tables, and its replies to one query after another.
An absent reply, also after the last one, says that there is no such table. -/
structure Server where
  names : List Text := []
  replies : List (Option Text) := []

structure Connection where
  dialect : Text
  /-- The URL with its password hidden. -/
  url : Text
  /-- A table name as it is written into a query. -/
  quote : Text → Text
  server : Server

structure Query where
  sql : Text
  tableName : Option Text
deriving DecidableEq, Repr

inductive DatabaseError where
  | unreachable (reason : Text)
  | unsupported (dialect : Text)
deriving DecidableEq, Repr

def DatabaseError.message : DatabaseError → Text
  | unreachable reason => reason
  | unsupported dialect => "Cannot dump DDL from a " ++ dialect ++ " database"

namespace Connection

def showDialects : List Text := ["mysql", "mariadb"]

def supportedDialects : List Text := "sqlite" :: showDialects

def query (c : Connection) (name : Text) : Query :=
  if showDialects.contains c.dialect then ⟨"SHOW CREATE TABLE " ++ c.quote name, none⟩
  else ⟨"SELECT sql FROM sqlite_master WHERE type = 'table' AND name = :name", some name⟩

def wanted (c : Connection) (names : Option (List Text)) : List Text := names.getD c.server.names

def replies : List Text → List (Option Text) → List (Text × Option Text)
  | [], _ => []
  | name :: names, [] => (name, none) :: replies names []
  | name :: names, reply :: others => (name, reply) :: replies names others

def noDefinition (name : Text) : Event where
  logger := loggerName (some "introspector")
  level := warning
  message := "No DDL returned for " ++ name
  context := { table := some (.text name), operation := some (.text "introspect") }

def script (definitions : List Text) : Text :=
  (lit ";\n\n").intercalate definitions ++ provided (definitions ≠ []) ";\n"

/-- The script of the tables with these names, or of all. -/
def dump (c : Connection) (names : Option (List Text)) : Logged (Except DatabaseError Text) :=
  if supportedDialects.contains c.dialect then
    let found := replies (c.wanted names) c.server.replies
    ⟨(found.filter fun (_, reply) => present reply = none).map fun (name, _) => noDefinition name,
      .ok (script (found.filterMap fun (_, reply) => present reply))⟩
  else return .error (.unsupported c.dialect)

/-- The queries that a dump sends, in the order of the replies to them. -/
def queries (c : Connection) (names : Option (List Text)) : List Query :=
  (c.wanted names).map c.query

def introspecting (c : Connection) (source : Text) : Event where
  logger := loggerName (some "introspector")
  level := info
  message := "Introspecting " ++ c.url
  context := { source := some (.text source), operation := some (.text "introspect") }

def schema (c : Connection) (lexer : Sql.Lexer) (source : Text) (names : Option (List Text)) :
    Logged (Except DatabaseError Schema) := do
  Logged.emit (c.introspecting source)
  match ← c.dump names with
  | .error e => return .error e
  | .ok ddl => return .ok (← Log.readSchema lexer source ddl)

end Connection

end SchemaDiff.Database
