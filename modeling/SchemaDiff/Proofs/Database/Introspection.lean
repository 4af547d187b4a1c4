import SchemaDiff.Database.Introspection
import SchemaDiff.Proofs.Ddl.Dump
import SchemaDiff.Proofs.Sql.Statements
import SchemaDiff.Sql.RuleTable

/-
Schemas of live databases. The script of the definitions that a server returns is cut where they were
joined, so that its schema is the merger of the schemas of the definitions one by one.
-/
namespace SchemaDiff.Database.Connection
open SchemaDiff.Text SchemaDiff.Log SchemaDiff.Sql

def definitions (c : Connection) (names : Option (List Text)) : List Text :=
  (replies (c.wanted names) c.server.replies).filterMap fun (_, reply) => present reply

section

variable {lexer : Lexer} {definitions : List Text}

end

section

variable {c : Connection} {names : Option (List Text)}

end

end SchemaDiff.Database.Connection
