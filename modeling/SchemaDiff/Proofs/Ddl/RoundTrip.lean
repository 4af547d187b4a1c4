import SchemaDiff.Comparison.Report
import SchemaDiff.Ddl.Dump
import SchemaDiff.Proofs.Ddl.TableRender
import SchemaDiff.Proofs.Schema
import SchemaDiff.Proofs.Sql.Lexeme
import SchemaDiff.Sql.RuleTable

/-
Scripts of rendered tables. Such a script is cut into the statements that it was put together from,
and the schema that is read from it holds the tables that it was written for.
-/
namespace SchemaDiff.Ddl
open SchemaDiff.Text SchemaDiff.Sql

def creationScript (tables : List Table) : Text :=
  joinStatements (tables.map ({} : Style).createTable)

theorem dark_createTable (t : Table) : ({} : Style).createTable t ≠ [] ∧
    StartsDark (({} : Style).createTable t) ∧ EndsDark (({} : Style).createTable t) := by
  have last : EndsDark (lit ";") := by decide
  refine ⟨List.cons_ne_nil 'C' _, ?_, ?_⟩
  · intro c first
    cases first
    decide
  · exact (endsDark_append (by decide)).mpr last

theorem creationScript_eq (tables : List Table) :
    creationScript tables = (lit "\n\n").intercalate (tables.map ({} : Style).createTable) := by
  have kept : (tables.map ({} : Style).createTable).filter (· ≠ []) =
      tables.map ({} : Style).createTable := by
    rw [List.filter_eq_self]
    intro s member
    obtain ⟨t, _, rfl⟩ := List.mem_map.mp member
    simpa using (dark_createTable t).1
  rw [creationScript, joinStatements, kept]

theorem creationScript_head (tables : List Table) :
    (creationScript tables).head? ≠ some byteOrderMark := by
  rw [creationScript_eq]
  rcases tables with _ | ⟨t, _ | ⟨u, others⟩⟩
  · simp
  · intro front
    cases front
  · intro front
    cases front

theorem squeeze_creationScript {tables : List Table} (renderable : ∀ t ∈ tables, RenderableTable t) :
    squeeze (creationScript tables) =
      [' '].intercalate ((tables.map renderedStatement).map (· ++ [';'])) := by
  have dark : ∀ s ∈ tables.map ({} : Style).createTable, s ≠ [] ∧ StartsDark s ∧ EndsDark s := by
    intro s member
    obtain ⟨t, _, rfl⟩ := List.mem_map.mp member
    exact dark_createTable t
  have each : ∀ t ∈ tables, (squeeze ∘ ({} : Style).createTable) t =
      ((· ++ [';']) ∘ renderedStatement) t := fun t member => squeeze_createTable (renderable t member)
  have gap : squeeze (lit "\n\n") = [' '] := by decide
  rw [creationScript_eq, squeeze_intercalate dark, gap, List.map_map, List.map_congr_left each,
    List.map_map]

theorem trim_terminated {p : Text} (piece : Piece .ignored (· == ';') p) :
    trim (p ++ [';']) = p ++ [';'] := by
  have last : EndsDark [';'] := by decide
  have first := (trim_eq_self_iff.mp piece.trimmed).1
  exact trim_eq_of_dark (startsDark_of_front piece.solid first _) ((endsDark_append (by decide)).mpr last)

theorem createStatements_creationScript {lexer : Lexer} {tables : List Table}
    (renderable : ∀ t ∈ tables, RenderableTable t) (free : CommentFree lexer (creationScript tables)) :
    createStatements lexer (creationScript tables) = tables.map renderedStatement := by
  have pieces : ∀ p ∈ tables.map renderedStatement, Piece .ignored (· == ';') p := by
    intro p member
    obtain ⟨t, listed, rfl⟩ := List.mem_map.mp member
    exact piece_renderedStatement (renderable t listed)
  have creates : ∀ p ∈ tables.map renderedStatement, isCreateTable p := by
    intro p member
    obtain ⟨t, _, rfl⟩ := List.mem_map.mp member
    exact isCreateTable_statement _ _ _ _
  have normal : normalize lexer (creationScript tables) =
      [' '].intercalate ((tables.map renderedStatement).map (· ++ [';'])) := by
    rw [normalize_of_commentFree (creationScript_head tables) free, squeeze_creationScript renderable]
    by_cases empty : tables = []
    · rw [empty]
      rfl
    · apply trim_intercalate (by simpa using empty)
      intro s member
      obtain ⟨p, listed, rfl⟩ := List.mem_map.mp member
      exact ⟨by simp, trim_terminated (pieces p listed)⟩
  have blank : Gap (· == ';') [' '] := by decide
  rw [createStatements, normal, statements, splitTopLevel_terminated ⟨rfl, rfl⟩ blank pieces,
    List.filter_eq_self.mpr creates]

theorem readTables_creationScript {lexer : Lexer} {tables : List Table}
    (renderable : ∀ t ∈ tables, RenderableTable t) (free : CommentFree lexer (creationScript tables))
    (label : Text) :
    (readTables lexer label (creationScript tables)).map Table.bare =
      tables.map fun t => { t with source := label }.bare := by
  rw [readTables, createStatements_creationScript renderable free]
  clear free
  induction tables with
  | nil => rfl
  | cons t others ih =>
    obtain ⟨u, read, agrees⟩ := readTable_renderedStatement (renderable t List.mem_cons_self) label
    have later := ih fun v member => renderable v (List.mem_cons_of_mem t member)
    rw [List.map_cons, List.filterMap_cons_some read, List.map_cons, List.map_cons, later]
    exact congrArg (· :: _) agrees

/-- Distinct tables are read back in their order from the script that creates them, if comments are
found in none of their texts. -/
theorem readSchema_creationScript {lexer : Lexer} {label : Text} {tables : List Table}
    (renderable : ∀ t ∈ tables, RenderableTable t) (labelled : ∀ t ∈ tables, t.source = label)
    (distinct : (tables.map Table.name).Nodup) (free : CommentFree lexer (creationScript tables)) :
    let schema := readSchema lexer label (creationScript tables)
    schema.source = label ∧ schema.keys = tables.map Table.name ∧
      schema.tables.map Table.bare = tables.map Table.bare := by
  have same : ∀ t ∈ tables, { t with source := label }.bare = t.bare := by
    intro t member
    rw [← labelled t member]
  have read := readTables_creationScript renderable free label
  rw [List.map_congr_left same] at read
  have names : (readTables lexer label (creationScript tables)).map Table.name = tables.map Table.name := by
    have bared := congrArg (List.map Table.name) read
    rwa [List.map_map, List.map_map] at bared
  rw [← names] at distinct ⊢
  obtain ⟨entries, source⟩ :
      (readSchema lexer label (creationScript tables)).entries =
          (readTables lexer label (creationScript tables)).map (fun t => (t.name, t)) ∧
        (readSchema lexer label (creationScript tables)).source = label :=
    Schema.ofTables_of_distinct distinct
  refine ⟨source, ?_, ?_⟩
  · rw [Schema.keys, entries, List.map_map]
    rfl
  · rw [readSchema, Schema.tables_ofTables distinct]
    exact read

theorem readSchema_creationScript_with_marks :
    let lexer := RuleTable.lexer
    let id : Column := { name := "Id", dataType := "INT", autoIncrement := true }
    let kind : Column := {
      name := "x; --"
      dataType := "ENUM('A,B', '/* ; */') UNSIGNED"
      isNullable := false
      defaultValue := some "NULL ('(' 1)"
      collation := some "utf8_bin" }
    let first : Table :=
      { name := "a -- b", columns := [kind], source := "db", engine := some "InnoDB" }
    let second : Table :=
      { name := "(t", columns := [id, kind], source := "db", charset := some "utf8" }
    ((∀ t ∈ [first, second], RenderableTable t) ∧ (∀ t ∈ [first, second], t.source = "db") ∧
        ([first, second].map Table.name).Nodup ∧ CommentFree lexer (creationScript [first, second])) ∧
      (readSchema lexer "db" (creationScript [first, second])).tables.map Table.bare =
        [first.bare, second.bare] := by
  intro lexer id kind first second
  have labelled : ∀ t ∈ [first, second], t.source = lit "db" := by decide
  have distinct : ([first, second].map Table.name).Nodup := by decide
  have free : CommentFree lexer (creationScript [first, second]) := by decide +kernel
  have renderableId : RenderableColumn id := ⟨⟨"INT", .absent, []⟩, none, by decide +kernel⟩
  have renderableKind : RenderableColumn kind :=
    ⟨⟨"ENUM", .attached "'A,B', '/* ; */'", ["UNSIGNED"]⟩, some ["NULL", "('(' 1)"], by decide +kernel⟩
  have renderable : ∀ t ∈ [first, second], RenderableTable t := by
    simp only [List.forall_mem_cons, List.not_mem_nil, false_implies, implies_true, and_true]
    refine ⟨⟨by decide +kernel, by decide, ?_, by decide, by decide, by decide⟩,
      ⟨by decide +kernel, by decide, ?_, by decide, by decide, by decide⟩⟩
    · simpa [first] using renderableKind
    · simpa [second] using ⟨renderableId, renderableKind⟩
  obtain ⟨_, _, read⟩ := readSchema_creationScript renderable labelled distinct free
  exact ⟨⟨renderable, labelled, distinct, free⟩, read⟩

/-- What is not read back: two blanks in a row, be it in a quoted name, a semicolon or the mark of a
comment in a default outside quotes, and even that mark in a literal, if the two acute accents around
the opening quote make it part of a name. -/
theorem readSchema_not_steady :
    let lexer := RuleTable.lexer
    let column : Column := { name := "c", dataType := "INT" }
    let blanks : Table := { name := "a  b", columns := [column], source := "db" }
    let semicolon : Table :=
      { name := "t", columns := [{ column with defaultValue := some "1;2" }], source := "db" }
    let comment : Table :=
      { name := "t", columns := [{ column with defaultValue := some "1--2" }], source := "db" }
    let accents : Table := {
      name := "t"
      columns := [{ column with defaultValue := some "\u00b4" },
        { column with name := "d", defaultValue := some "'\u00b4--'" }]
      source := "db" }
    (blanks.name ≠ [] ∧ '\x60' ∉ blanks.name ∧ blanks.name.getLast? ≠ some '\\') ∧
      blanks.name ≠ lit "a b" ∧ (readSchema lexer "db" (creationScript [blanks])).keys = [lit "a b"] ∧
      (readSchema lexer "db" (creationScript [semicolon])).keys = [] ∧
      (readSchema lexer "db" (creationScript [comment])).tables.map Table.bare =
        [{ comment with columns := [{ column with defaultValue := some "1" }] }] ∧
      (∀ c ∈ accents.columns, RenderableColumn c) ∧
      (readSchema lexer "db" (creationScript [accents])).keys = [] := by
  intro lexer column blanks semicolon comment accents
  have renderable : ∀ c ∈ accents.columns, RenderableColumn c := by
    intro c member
    have shape : Renderable c ⟨"INT", .absent, []⟩ (c.defaultValue.map ([·])) := by
      revert c
      decide +kernel
    exact ⟨_, _, shape⟩
  refine ⟨by decide, by decide, by decide +kernel, by decide +kernel, by decide +kernel, renderable,
    by decide +kernel⟩

end SchemaDiff.Ddl
