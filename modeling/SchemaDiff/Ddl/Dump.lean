import SchemaDiff.Ddl.CreateTable
import SchemaDiff.Schema
import SchemaDiff.Sql.Normal
/-
Reading a whole dump: the statements that create tables are read one by one, and all others are
passed over.
-/
namespace SchemaDiff.Ddl

def createStatements (lexer : Sql.Lexer) (script : Text) : List Text :=
  (Sql.statements (Sql.normalize lexer script)).filter isCreateTable

def readTables (lexer : Sql.Lexer) (source script : Text) : List Table :=
  (createStatements lexer script).filterMap (readTable source)

/-- The statements that start as if they created a table but have no name or no body. -/
def unreadable (lexer : Sql.Lexer) (script : Text) : List Text :=
  (createStatements lexer script).filter fun statement => (readTableParts statement).isNone

/-- The schema that a script creates; of two definitions of one table the later one counts. -/
def readSchema (lexer : Sql.Lexer) (source script : Text) : Schema :=
  Schema.ofTables source (readTables lexer source script)

end SchemaDiff.Ddl
