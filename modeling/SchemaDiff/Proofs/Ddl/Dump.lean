import SchemaDiff.Ddl.Dump
import SchemaDiff.Proofs.Schema.Merge

/-
Scripts read by parts. Where the statements of a script are those of its parts in turn, the schema of
the script is the merger of the schemas of the parts.
-/
namespace SchemaDiff.Ddl
open SchemaDiff.Text SchemaDiff.Sql

section

variable {lexer : Lexer} {source script : Text} {parts : List Text}
  (split : statements (Sql.normalize lexer script) = parts.flatMap fun p => statements (Sql.normalize lexer p))

include split

theorem readTables_of_parts : readTables lexer source script = parts.flatMap (readTables lexer source) := by
  rw [readTables, createStatements, split]
  clear split
  induction parts with
  | nil => rfl
  | cons p others ih =>
    rw [List.flatMap_cons, List.filter_append, List.filterMap_append, ih, List.flatMap_cons]
    rfl

theorem readSchema_of_parts :
    Schema.Merges (parts.map (readSchema lexer source)) (readSchema lexer source script) := by
  have merged := Schema.merges_ofTables source (parts.map (readTables lexer source))
  rwa [← List.flatMap_def, ← readTables_of_parts split, List.map_map] at merged

end

theorem source_readSchema (lexer : Lexer) (source script : Text) : (readSchema lexer source script).source = source :=
  Schema.source_ofEntries source _

end SchemaDiff.Ddl
