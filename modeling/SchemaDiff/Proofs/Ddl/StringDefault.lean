import SchemaDiff.Comparison
import SchemaDiff.Ddl.Dump
import SchemaDiff.Proofs.Ddl.ColumnDefinition
import SchemaDiff.Proofs.Ddl.TableStatement
import SchemaDiff.Proofs.Sql.Lexeme
import SchemaDiff.Proofs.Sql.Statements
import SchemaDiff.Sql.RuleTable

/-
String defaults from the dump to the comparison. A literal comes through every stage as it is, but for its
blanks: those are squeezed with the rest of the script, so that defaults are compared by their squeezed texts.
-/
namespace SchemaDiff.Ddl
open SchemaDiff.Text SchemaDiff.Sql

/-- What stands between the single quotes of a literal, without quotes and backslashes. -/
structure StringLiteral where
  body : Text
  noQuote : '\'' ∉ body
  noBackslash : '\\' ∉ body

namespace StringLiteral

def text (l : StringLiteral) : Text := '\'' :: l.body ++ ['\'']

def squeezed (l : StringLiteral) : StringLiteral where
  body := squeeze l.body
  noQuote := not_mem_squeeze (by decide) l.noQuote
  noBackslash := not_mem_squeeze (by decide) l.noBackslash

theorem text_squeezed (l : StringLiteral) : l.squeezed.text = squeeze l.text := by
  have opening : EndsDark ['\''] := by decide
  have closing : StartsDark ['\''] := by decide
  have shape : l.text = ['\''] ++ (l.body ++ ['\'']) := rfl
  rw [shape, squeeze_append_of_endsDark opening, squeeze_append_of_startsDark closing]
  rfl

theorem startsDark_text (l : StringLiteral) (t : Text) : StartsDark (l.text ++ t) := by
  intro c first
  cases first
  decide

theorem endsDark_text (l : StringLiteral) : EndsDark l.text := by
  have closing : EndsDark ['\''] := by decide
  exact (endsDark_append (s := '\'' :: l.body) (by decide)).mpr closing

theorem whole_text {parens : Parens} {isDelimiter : Char → Bool} (kept : isDelimiter '\'' = false)
    (l : StringLiteral) : Whole parens isDelimiter l.text := by
  have unescaped : l.body.getLast? ≠ some '\\' := fun last => l.noBackslash (List.mem_of_getLast? last)
  exact whole_quoted (by decide) l.noQuote unescaped kept

end StringLiteral

/-- A dump with one table of one column that has the literal as its default. -/
def defaultDump (literal : Text) : Text := "CREATE TABLE t (c VARCHAR(9) DEFAULT " ++ (literal ++ ");")

theorem normalize_defaultDump {lexer : Lexer} {l : StringLiteral} (free : CommentFree lexer (defaultDump l.text)) :
    normalize lexer (defaultDump l.text) = defaultDump l.squeezed.text := by
  have front : squeeze "CREATE TABLE t (c VARCHAR(9) DEFAULT " = "CREATE TABLE t (c VARCHAR(9) DEFAULT " := by
    decide
  have closing : StartsDark (lit ");") := by decide
  have squeezed : squeeze (defaultDump l.text) = defaultDump l.squeezed.text := by
    rw [defaultDump, squeeze_append_of_startsDark (l.startsDark_text _), front,
      squeeze_append_of_startsDark closing, ← l.text_squeezed]
    rfl
  have noMark : (defaultDump l.text).head? ≠ some byteOrderMark := by
    intro front
    cases front
  have last : EndsDark (lit ");") := by decide
  rw [normalize_of_commentFree noMark free, squeezed]
  apply trim_eq_of_dark
  · intro c first
    cases first
    decide
  · rw [defaultDump, ← List.append_assoc]
    exact (endsDark_append (by decide)).mpr last

def defaultColumn (literal : Text) : Column where
  name := "c"
  dataType := "VARCHAR(9)"
  defaultValue := some literal
  definition := "c VARCHAR(9) DEFAULT " ++ literal

def defaultStatement (literal : Text) : Text :=
  statement (.word "t") false (defaultColumn literal).definition []

theorem defaultStatement_eq (literal : Text) :
    defaultStatement literal = "CREATE TABLE t (c VARCHAR(9) DEFAULT " ++ (literal ++ lit ")") := rfl

theorem defaultDump_eq (literal : Text) : defaultDump literal = defaultStatement literal ++ [';'] := by
  simp [defaultDump, defaultStatement_eq]
  rfl

theorem piece_defaultStatement (l : StringLiteral) : Piece .ignored (· == ';') (defaultStatement l.text) where
  toWhole := by
    have front : Whole .ignored (· == ';') "CREATE TABLE t (c VARCHAR(9) DEFAULT " := by decide
    have closing : Whole .ignored (· == ';') (lit ")") := by decide
    rw [defaultStatement_eq]
    exact whole_append front (whole_append (l.whole_text rfl) closing)
  solid := List.cons_ne_nil _ _
  trimmed := by
    have last : EndsDark (lit ")") := by decide
    apply trim_eq_of_dark
    · intro c first
      cases first
      decide
    · rw [defaultStatement_eq, ← List.append_assoc]
      exact (endsDark_append (by decide)).mpr last

theorem createStatements_defaultDump {lexer : Lexer} {l : StringLiteral}
    (free : CommentFree lexer (defaultDump l.text)) :
    createStatements lexer (defaultDump l.text) = [defaultStatement l.squeezed.text] := by
  have piece := piece_defaultStatement l.squeezed
  have alone : statements (defaultStatement l.squeezed.text ++ []) = [defaultStatement l.squeezed.text] :=
    splitTopLevel_padded piece (by simp)
  have creates : isCreateTable (defaultStatement l.squeezed.text) := isCreateTable_statement _ _ _ _
  rw [createStatements, normalize_defaultDump free, defaultDump_eq,
    statements_terminated (ScanState.closed_of_isTopLevel piece.ends),
    ← List.append_nil (defaultStatement _), alone]
  simp [creates]

theorem item_definition (l : StringLiteral) : Item (defaultColumn l.text).definition where
  toWhole := whole_append (t := "c VARCHAR(9) DEFAULT ") (by decide) (l.whole_text rfl)
  solid := List.cons_ne_nil _ _
  trimmed := by
    apply trim_eq_of_dark
    · intro c first
      cases first
      decide
    · exact (endsDark_append (List.cons_ne_nil _ _)).mpr l.endsDark_text

theorem readColumn_definition (l : StringLiteral) :
    readColumn (defaultColumn l.text).definition = some (defaultColumn l.text) := by
  let type : TypeText := ⟨"VARCHAR", .attached "9", []⟩
  let clause : Written := ⟨.default [l.text], ["DEFAULT"]⟩
  have apart : upper l.text ∉ defaultEnds := by
    have capitals : ∀ k ∈ defaultEnds, ∀ c ∈ k, isCapital c := by decide
    intro known
    exact not_capital_of_mem (c := '\'') (by simp [StringLiteral.text]) rfl (capitals _ known) rfl rfl
  have token : Token l.text :=
    { toWhole := l.whole_text rfl
      solid := List.cons_ne_nil _ _
      trimmed := trim_eq_of_dark (by simpa using l.startsDark_text []) l.endsDark_text }
  have spelled : List.Forall₂ InAnyCase [lit "DEFAULT"] [lit "DEFAULT"] := by decide
  have validClauses : ∀ w ∈ [clause], w.Valid := by
    rw [List.forall_mem_singleton]
    exact { clause := ⟨⟨.inr apart, by simp⟩, by simpa using token⟩, spelled }
  have validType : type.Valid := by decide
  have valid : (Identifier.word "c").Valid := by decide
  have names : NamesColumn (.word "c") := by decide
  have read := readColumn_definitionText valid names (by simp [words_ne_nil])
    (tokens_definition validType validClauses)
  obtain ⟨dataType, notNull, default, increment, charset, collation⟩ :=
    attributes_clauses validType validClauses (by simp)
  rw [dataType, notNull, default, increment, charset, collation] at read
  have words : type.words ++ [clause].flatMap Written.words = [lit "VARCHAR(9)", "DEFAULT", l.text] := rfl
  have shape : definitionText (.word "c") ["VARCHAR(9)", "DEFAULT", l.text] =
      (defaultColumn l.text).definition := by
    simp only [definitionText, List.intercalate_cons_cons, List.intercalate_singleton]
    rfl
  have value : (([clause].map Written.clause).findSome? Clause.default?).map [' '].intercalate = some l.text :=
    congrArg some (List.intercalate_singleton ..)
  have noNull : ([clause].map Written.clause).contains Clause.notNull = false := by simp [clause]
  have noIncrement : ([clause].map Written.clause).contains Clause.autoIncrement = false := by simp [clause]
  rw [value, noNull, noIncrement, words, shape] at read
  exact read

def defaultTable (source literal : Text) : Table := { name := "t", columns := [defaultColumn literal], source }

theorem readTable_defaultStatement (source : Text) (l : StringLiteral) :
    readTable source (defaultStatement l.text) = some (defaultTable source l.text) := by
  have item := item_definition l
  have closed : Closed (defaultColumn l.text).definition := ScanState.closed_of_isTopLevel item.ends
  have solid : trim (defaultColumn l.text).definition ≠ [] := by rw [item.trimmed]; exact item.solid
  have valid : (Identifier.word "t").Valid := by decide
  have noOptions : Hidden (· == ')') .start [] := trivial
  have parts := readTableParts_statement valid trivial false closed solid noOptions
  have alone : definitions (defaultColumn l.text).definition = [(defaultColumn l.text).definition] := by
    have split := definitions_intercalate (List.forall_mem_singleton.mpr item)
    rwa [List.intercalate_singleton] at split
  rw [item.trimmed] at parts
  rw [readTable, defaultStatement, parts, Option.map_some, TableParts.table, alone,
    List.filterMap_cons_some (readColumn_definition l)]
  rfl

theorem readSchema_defaultDump {lexer : Lexer} {l : StringLiteral} (free : CommentFree lexer (defaultDump l.text))
    (source : Text) :
    readSchema lexer source (defaultDump l.text) =
      Schema.ofTables source [defaultTable source (squeeze l.text)] := by
  rw [Ddl.readSchema, readTables, createStatements_defaultDump free,
    List.filterMap_cons_some (readTable_defaultStatement source l.squeezed), l.text_squeezed]
  rfl

theorem compare_defaultTables (style : Style) (s t u v : Text) :
    let comparison :=
      compare style (Schema.ofTables s [defaultTable s u]) (Schema.ofTables t [defaultTable t v])
    comparison.missingTables = [] ∧ comparison.missingColumns = [] ∧
      comparison.differentColumns = if u = v then [] else [⟨"t", defaultColumn u, defaultColumn v⟩] := by
  intro comparison
  refine ⟨rfl, rfl, ?_⟩
  have pairs : (Schema.ofTables s [defaultTable s u]).matched (Schema.ofTables t [defaultTable t v]) =
      [(defaultTable s u, defaultTable t v)] := rfl
  have columns : (defaultTable s u).different (defaultTable t v) =
      [(defaultColumn u, defaultColumn v)].filter fun pair => pair.1.changes pair.2 ≠ [] := rfl
  have unchanged : (defaultColumn u).changes (defaultColumn v) = [] ↔ u = v := by
    simp [Column.changes, defaultColumn]
  have differences : comparison.differentColumns =
      ((defaultTable s u).different (defaultTable t v)).map fun pair => ⟨"t", pair.1, pair.2⟩ := by
    change Comparison.differencesOf _ _ = _
    rw [Comparison.differencesOf, pairs]
    exact List.append_nil _
  rw [differences, columns]
  by_cases same : u = v
  · have none := unchanged.mpr same
    rw [if_pos same]
    simp [none]
  · have some := mt unchanged.mp same
    rw [if_neg same]
    simp [some]

/-- Where no comment is found in the dumps, the defaults are the literals with their blanks squeezed, that is,
the literals themselves where no blank but single spaces is inside. The comparison tells two of them apart if
they are not the same squeezed. -/
theorem compare_stringDefaults {lexer : Lexer} {l m : StringLiteral}
    (free : CommentFree lexer (defaultDump l.text)) (freeOther : CommentFree lexer (defaultDump m.text))
    (style : Style) (s t : Text) :
    let a := readSchema lexer s (defaultDump l.text)
    let b := readSchema lexer t (defaultDump m.text)
    ∃ c d, a.tables.map Table.columns = [[c]] ∧ b.tables.map Table.columns = [[d]] ∧
      (c.defaultValue = some (squeeze l.text) ∧ d.defaultValue = some (squeeze m.text)) ∧
      (c.defaultValue = some l.text ↔ Isolated l.text) ∧
      (d.defaultValue = some m.text ↔ Isolated m.text) ∧
      (compare style a b).missingTables = [] ∧ (compare style a b).missingColumns = [] ∧
      (compare style a b).differentColumns =
        if squeeze l.text = squeeze m.text then [] else [⟨"t", c, d⟩] := by
  have verbatim (n : StringLiteral) : some (squeeze n.text) = some n.text ↔ Isolated n.text := by
    rw [Option.some.injEq]
    exact tidy_iff_isolated
  dsimp only
  rw [readSchema_defaultDump free, readSchema_defaultDump freeOther]
  exact ⟨defaultColumn (squeeze l.text), defaultColumn (squeeze m.text), rfl, rfl, ⟨rfl, rfl⟩, verbatim l,
    verbatim m, compare_defaultTables style s t _ _⟩

theorem compare_stringDefaults_with_marks :
    let lexer := RuleTable.lexer
    let l : StringLiteral := ⟨"a -- b; /* (,\" NOT NULL # C", by decide, by decide⟩
    let m : StringLiteral := ⟨"a -- b; /* (,\" NOT NULL # c", by decide, by decide⟩
    let a := readSchema lexer "a" (defaultDump l.text)
    let b := readSchema lexer "b" (defaultDump m.text)
    (CommentFree lexer (defaultDump l.text) ∧ CommentFree lexer (defaultDump m.text)) ∧
      ∃ c d, a.tables.map Table.columns = [[c]] ∧ b.tables.map Table.columns = [[d]] ∧
        (c.defaultValue = some l.text ∧ d.defaultValue = some m.text) ∧
        (compare {} a b).differentColumns = [⟨"t", c, d⟩] := by
  intro lexer l m a b
  have free : CommentFree lexer (defaultDump l.text) ∧ CommentFree lexer (defaultDump m.text) := by
    decide +kernel
  obtain ⟨c, d, left, right, _, verbatim, verbatimOther, _, _, different⟩ :=
    compare_stringDefaults free.1 free.2 {} "a" "b"
  rw [if_neg (by decide)] at different
  have isolated : Isolated l.text ∧ Isolated m.text :=
    ⟨tidy_iff_isolated.mp (by decide), tidy_iff_isolated.mp (by decide)⟩
  exact ⟨free, c, d, left, right, ⟨verbatim.mpr isolated.1, verbatimOther.mpr isolated.2⟩, different⟩

/-- Two spaces inside a literal are read as one, so that different literals give the same column. -/
theorem compare_stringDefaults_blanks :
    let lexer := RuleTable.lexer
    let l : StringLiteral := ⟨"a  b", by decide, by decide⟩
    let m : StringLiteral := ⟨"a b", by decide, by decide⟩
    let a := readSchema lexer "a" (defaultDump l.text)
    let b := readSchema lexer "b" (defaultDump m.text)
    l.text = "'a  b'" ∧ m.text = "'a b'" ∧
      (CommentFree lexer (defaultDump l.text) ∧ CommentFree lexer (defaultDump m.text)) ∧
      (a.tables.map fun t => t.columns.map Column.defaultValue) = [[some (lit "'a b'")]] ∧
      (compare {} a b).differentColumns = [] := by
  intro lexer l m a b
  have free : CommentFree lexer (defaultDump l.text) ∧ CommentFree lexer (defaultDump m.text) := by
    decide +kernel
  have readLeft : a = _ := readSchema_defaultDump free.1 "a"
  have readRight : b = _ := readSchema_defaultDump free.2 "b"
  obtain ⟨_, _, differences⟩ := compare_defaultTables {} "a" "b" (squeeze l.text) (squeeze m.text)
  rw [readLeft, readRight]
  exact ⟨rfl, rfl, free, rfl, differences.trans (if_pos (by decide))⟩

end SchemaDiff.Ddl
