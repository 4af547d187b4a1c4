import SchemaDiff.Comparison
import SchemaDiff.Ddl.Dump
import SchemaDiff.Log
/- The work of reading and comparing schemas together with the events that it reports. -/
namespace SchemaDiff.Log
open SchemaDiff.Text

def parserLogger : Text := loggerName (some "parser")

def skipped (source statement : Text) : Event where
  logger := parserLogger
  level := debug
  message := "Skipped unparseable statement: " ++ statement.take 80
  context := { source := some (.text source), operation := some (.text "parse") }

def parsed (s : Schema) : Event where
  logger := parserLogger
  level := debug
  message := "Parsed " ++ ofNat s.size ++ " tables"
  context := { source := some (.text s.source), operation := some (.text "parse") }

def readTable (source statement : Text) : Logged (Option Table) where
  events := if (Ddl.readTableParts statement).isNone then [skipped source statement] else []
  result := Ddl.readTable source statement

def readSchema (lexer : Sql.Lexer) (source script : Text) : Logged Schema :=
  let schema := Ddl.readSchema lexer source script
  ⟨(Ddl.unreadable lexer script).map (skipped source) ++ [parsed schema], schema⟩

def compared (a b : Schema) (c : Comparison) : Event where
  logger := loggerName (some "comparator")
  level := info
  message :=
    "Compared " ++ ofNat a.size ++ " vs " ++ ofNat b.size ++ " tables: "
    ++ ofNat c.missingTables.length ++ " missing tables, "
    ++ ofNat c.missingColumns.length ++ " missing columns, "
    ++ ofNat c.differentColumns.length ++ " different columns"
  context := { operation := some (.text "compare") }

def compare (style : Ddl.Style) (a b : Schema) : Logged Comparison :=
  let comparison := SchemaDiff.compare style a b
  ⟨[compared a b comparison], comparison⟩

end SchemaDiff.Log
