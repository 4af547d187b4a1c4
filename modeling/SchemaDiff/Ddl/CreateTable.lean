import SchemaDiff.Ddl.ColumnDefinition
import SchemaDiff.Ddl.TableOption
import SchemaDiff.Table
/-
Reading a statement that creates a table. The body runs from the first parenthesis after the table's
name to the last closing one outside quotes; what follows it are the options.
-/
namespace SchemaDiff.Ddl
open SchemaDiff.Text SchemaDiff.Text.Pattern

def createTable : Pattern := seq [blanks, keywords ["CREATE", "TABLE"]]

def isCreateTable (statement : Text) : Bool := (seq [createTable, wordEnd] statement).isSome

def ifNotExists : Pattern := seq [keywords ["IF", "NOT", "EXISTS"], blanks1]

/-- The name of the table, and the text after it. Where no name follows `IF NOT EXISTS`, the first
of these words is itself the name. -/
def readTableName (statement : Text) : Option (Text × Text) :=
  match seq [createTable, blanks1] statement with
  | none => none
  | some n =>
    let t := statement.drop n
    let guarded := (ifNotExists t).bind fun m => readIdentifier (t.drop m)
    guarded.or (readIdentifier t)

structure TableParts where
  name : Text
  body : Text
  options : Text
deriving DecidableEq, Repr

/-- Cuts a statement into its parts. A statement without a name, without parentheses that open and
close a body, or with nothing in its body has none. -/
def readTableParts (statement : Text) : Option TableParts := do
  let (name, after) ← readTableName statement
  let offset ← after.findIdx? (· == '(')
  let start := statement.length - after.length + offset + 1
  let finish ← Sql.lastUnquoted (· == ')') start statement
  match trim ((statement.take finish).drop start) with
  | [] => none
  | body => some { name, body, options := trim (statement.drop (finish + 1)) }

def TableParts.table (parts : TableParts) (source : Text) : Table :=
  let options := readTableOptions parts.options
  { name := parts.name
    columns := (Sql.definitions parts.body).filterMap readColumn
    source
    engine := options.engine
    charset := options.charset
    collation := options.collation }

def readTable (source statement : Text) : Option Table :=
  (readTableParts statement).map (·.table source)

end SchemaDiff.Ddl
