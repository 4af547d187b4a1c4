import SchemaDiff.Proofs.Ddl.TableRender

/-
Quoted names from writing to reading. In the statement that creates a table with one column, the name of
the table is read by patterns, the end of the body is found by a scan of the whole statement, and the name
of the column is read by patterns again; all three agree on where a name ends unless a backslash stands
before its closing mark.
-/
namespace SchemaDiff.Ddl
open SchemaDiff.Text SchemaDiff.Sql

/-- The statement that creates a table with one column, without the semicolon at its end. -/
def soleStatement (table column dataType : Text) : Text :=
  (({} : Style).createTable { name := table, columns := [{ name := column, dataType }] }).dropLast

/-- The name of the table that a text is read as, with the names and the types of its columns. -/
def readNames (source text : Text) : Option (Text × List (Text × Text)) :=
  (readTable source text).map fun t => (t.name, t.columns.map fun c => (c.name, c.dataType))

def soleBody (column dataType : Text) : Text :=
  lit "\n  " ++ ((Identifier.quoted '\x60' column).text ++ (' ' :: dataType ++ lit "\n"))

theorem soleStatement_eq {table column : Text} (validTable : (Identifier.quoted '\x60' table).Valid)
    (validColumn : (Identifier.quoted '\x60' column).Valid) (dataType : Text) :
    soleStatement table column dataType =
      statement (.quoted '\x60' table) false (soleBody column dataType) [] := by
  have ended : ({} : Style).createTable { name := table, columns := [{ name := column, dataType }] } =
      statement (.quoted '\x60' table) false (soleBody column dataType) [] ++ [';'] := by
    simp [Style.createTable, clauseLines, Style.column, identifier_eq validTable,
      identifier_eq validColumn, statement, statementHead, soleBody, provided, clause, present,
      Style.effectiveCollation, List.intercalate_singleton, lit]
  rw [soleStatement, ended, List.dropLast_concat]

def soleColumn (column : Text) (type : TypeText) : Text :=
  definitionText (.quoted '\x60' column) type.words

theorem soleBody_eq {type : TypeText} {dataType : Text}
    (together : [' '].intercalate type.words = dataType) (column : Text) :
    soleBody column dataType = lit "\n  " ++ soleColumn column type ++ lit "\n" := by
  rw [soleBody, soleColumn, definitionText_eq _ (words_ne_nil type), together]
  simp only [List.append_assoc]

section

variable {table column dataType : Text} {type : TypeText}
  (validTable : (Identifier.quoted '\x60' table).Valid)
  (validColumn : (Identifier.quoted '\x60' column).Valid) (validType : type.Valid)

include validColumn validType

theorem item_soleColumn (unescaped : column.getLast? ≠ some '\\') :
    Item (soleColumn column type) where
  toWhole := by
    have words := whole_type (fun _ => beq_of_isWord (d := ',') rfl) rfl rfl validType
    rw [soleColumn, definitionText_spaced]
    exact whole_append (whole_quoted rfl validColumn.2.2 unescaped rfl)
      (whole_spaced (by decide) words)
  solid := by simp [soleColumn, definitionText_spaced, Identifier.text]
  trimmed := trim_definitionText validColumn (words_ne_nil type) (tokens_type validType)

theorem readColumn_soleColumn :
    (readColumn (soleColumn column type)).map (fun c => (c.name, c.dataType)) =
      some (column, upper type.joined) := by
  have read := readColumn_definitionText validColumn trivial (words_ne_nil type) (tokens_type validType)
  have nothing : EndsType [] := by simp [EndsType]
  have dataType := readType_type validType nothing
  rw [List.append_nil] at dataType
  rw [soleColumn, read, dataType]
  rfl

include validTable

theorem readNames_of_unescaped (together : [' '].intercalate type.words = dataType)
    (tableUnescaped : table.getLast? ≠ some '\\') (columnUnescaped : column.getLast? ≠ some '\\')
    (source : Text) :
    readNames source (soleStatement table column dataType) =
      some (table, [(column, upper type.joined)]) := by
  have item := item_soleColumn validColumn validType columnUnescaped
  have closed : Closed (soleBody column dataType) := by
    rw [soleBody_eq together]
    exact closed_append
      (closed_append (by decide) (ScanState.closed_of_isTopLevel item.ends)) (by decide)
  have trimmed : trim (soleBody column dataType) = soleColumn column type := by
    rw [soleBody_eq together]
    exact trim_pad (by decide) (by decide) item.trimmed
  have hidden : Hidden (· == ')') .start [] := trivial
  have parts := readTableParts_statement validTable tableUnescaped false closed
    (by rw [trimmed]; exact item.solid) hidden
  have items : definitions ((lit ", ").intercalate [soleColumn column type]) =
      [soleColumn column type] := definitions_intercalate (by simpa using item)
  rw [List.intercalate_singleton] at items
  obtain ⟨c, read, same⟩ := Option.map_eq_some_iff.mp (readColumn_soleColumn validColumn validType)
  rw [readNames, readTable, soleStatement_eq validTable validColumn, parts]
  simp [TableParts.table, trimmed, items, read, same, Identifier.name]

end

section

variable {t v : Text} (absent : '\x60' ∉ v) (front : t <+: '\x60' :: v)

include front

theorem trim_unclosed : trim t <+: '\x60' :: v := by
  have dark : StartsDark t := startsDark_of_isPrefix front (by intro c first; cases first; decide)
  rw [trim, trimStart_eq_self_iff.mpr dark]
  exact (trimEnd_isPrefix t).trans front

include absent

theorem readIdentifier_unclosed : readIdentifier t = none := by
  cases t with
  | nil => rfl
  | cons c rest =>
    obtain ⟨rfl, later⟩ := List.cons_prefix_cons.mp front
    have unmarked : ∀ d ∈ rest, decide (d ≠ '\x60') := by
      intro d member
      have other : d ≠ '\x60' := fun same => absent (same ▸ later.subset member)
      simpa using other
    have cut : cutAt '\x60' rest = (rest, none) := by
      rw [cutAt, List.dropWhile_eq_nil_iff.mpr unmarked]
    rw [readIdentifier, if_pos (.inl rfl), readQuoted, cut]
    cases rest <;> rfl

theorem readColumn_unclosed : readColumn t = none := by
  rw [readColumn, readIdentifier_unclosed absent (trim_unclosed front)]
  split <;> rfl

theorem uncut_unclosed : Uncut .tracked (· == ',') .start t := by
  cases t with
  | nil => trivial
  | cons c rest =>
    obtain ⟨rfl, later⟩ := List.cons_prefix_cons.mp front
    have opened : (ScanState.start.feed .tracked '\x60').quote.opener = some '\x60' := rfl
    exact ⟨by decide, (inside_quote opened fun member => absent (later.subset member)).2.2⟩

theorem readColumns_unclosed : (definitions t).filterMap readColumn = [] := by
  rw [List.filterMap_eq_nil_iff]
  intro f member
  rw [definitions, splitTopLevel, segments_uncut (uncut_unclosed absent front)] at member
  obtain ⟨listed, _⟩ := List.mem_filter.mp member
  obtain rfl : f = trim t := by simpa using listed
  exact readColumn_unclosed absent (trim_unclosed front)

end

def soleFront (table column : Text) : Text :=
  statementHead (.quoted '\x60' table) false ++ (lit "\n  " ++ '\x60' :: column)

section

variable {table column dataType : Text}
  (validTable : (Identifier.quoted '\x60' table).Valid)
  (validColumn : (Identifier.quoted '\x60' column).Valid)

include validTable

theorem inside_statementHead (last : table.getLast? = some '\\') :
    (QuoteState.start.after (statementHead (.quoted '\x60' table) false)).opener = some '\x60' := by
  have shape : statementHead (.quoted '\x60' table) false =
      lit "CREATE TABLE " ++ '\x60' :: (table ++ '\x60' :: lit " (") := by
    simp [statementHead, provided, Identifier.text]
  have opened : ((QuoteState.start.after (lit "CREATE TABLE ")).feed '\x60').opener =
      some '\x60' := by decide
  have inside := QuoteState.after_inside opened validTable.2.2
  have previous : (((QuoteState.start.after (lit "CREATE TABLE ")).feed '\x60').after
      table).previous = some '\\' := by rw [QuoteState.previous_after _ validTable.2.1, last]
  rw [shape, QuoteState.after_append, QuoteState.after_cons, QuoteState.after_append,
    QuoteState.after_cons]
  exact QuoteState.after_inside (QuoteState.feed_escaped inside previous _) (by decide)

include validColumn

/-- Where a name ends in a backslash, the mark that closes the column's name leaves a quote open: the
column's own, or one that it opens because the table's name has turned inside and outside round. -/
theorem isOpen_soleFront
    (escaped : ¬(table.getLast? ≠ some '\\' ∧ column.getLast? ≠ some '\\')) :
    ((QuoteState.start.after (soleFront table column)).feed '\x60').isOpen := by
  rw [soleFront, QuoteState.after_append, QuoteState.after_append, QuoteState.after_cons]
  by_cases tableUnescaped : table.getLast? ≠ some '\\'
  -- The column's quote opens outside and stays open.
  · have last : column.getLast? = some '\\' :=
      Classical.not_not.mp fun unescaped => escaped ⟨tableUnescaped, unescaped⟩
    have head : (QuoteState.start.after (statementHead (.quoted '\x60' table) false)).opener = none :=
      closed_statementHead validTable tableUnescaped false
    generalize QuoteState.start.after (statementHead (.quoted '\x60' table) false) = s at head
    have gap : (s.after (lit "\n  ")).opener = none := QuoteState.after_plain head (by decide)
    have opened : ((s.after (lit "\n  ")).feed '\x60').opener = some '\x60' := by
      simp [QuoteState.feed, gap, isQuote]
    have inside := QuoteState.after_inside opened validColumn.2.2
    have previous := QuoteState.previous_after ((s.after (lit "\n  ")).feed '\x60') validColumn.2.1
    rw [QuoteState.isOpen, QuoteState.feed_escaped inside (previous.trans last)]
    rfl
  -- The table's quote is still open, and the column's opening mark closes it: the name is read outside, and
  -- whatever quote it opens there, its closing mark does not leave the scan outside.
  · have head := inside_statementHead validTable (Classical.not_not.mp tableUnescaped)
    generalize QuoteState.start.after (statementHead (.quoted '\x60' table) false) = s at head
    have gap : (s.after (lit "\n  ")).opener = some '\x60' :=
      QuoteState.after_inside head (by decide)
    have closed : ((s.after (lit "\n  ")).feed '\x60').opener = none := by
      apply QuoteState.feed_closing gap
      rw [QuoteState.previous_after s (by decide)]
      decide
    apply QuoteState.isOpen_feed_quote ?_ rfl
    exact QuoteState.opener_after_ne (by rw [closed]; simp) validColumn.2.2

theorem soleStatement_split (dataType : Text) :
    soleStatement table column dataType =
      soleFront table column ++ '\x60' :: (' ' :: dataType ++ lit "\n)") := by
  rw [soleStatement_eq validTable validColumn, statement, soleBody, soleFront]
  simp [Identifier.text, lit]

theorem hidden_soleStatement
    (escaped : ¬(table.getLast? ≠ some '\\' ∧ column.getLast? ≠ some '\\'))
    (plain : ∀ c ∈ dataType, isQuote c = false) :
    Hidden (· == ')') (QuoteState.start.after (soleFront table column))
      ('\x60' :: (' ' :: dataType ++ lit "\n)")) := by
  obtain ⟨q, opener⟩ := Option.isSome_iff_exists.mp (isOpen_soleFront validTable validColumn escaped)
  have quote : isQuote q := by
    have quotes := QuoteState.isQuote_opener_after (s := .start) (by simp [QuoteState.start])
      (soleFront table column ++ ['\x60'])
    rw [QuoteState.after_append] at quotes
    exact quotes q opener
  have noQuote : ∀ c ∈ ' ' :: dataType ++ lit "\n)", isQuote c = false := by
    intro c member
    rcases List.mem_append.mp member with inType | ending
    · rcases List.mem_cons.mp inType with rfl | inType
      · rfl
      · exact plain c inType
    · exact (by decide : ∀ c ∈ lit "\n)", isQuote c = false) c ending
  refine ⟨fun same => absurd same (by decide), hidden_of_inside opener fun member => ?_⟩
  rw [noQuote q member] at quote
  contradiction

omit validTable validColumn in
theorem trim_take_soleFront (column : Text) (k : Nat) :
    trim ((lit "\n  " ++ '\x60' :: column).take k) <+: '\x60' :: column := by
  have blank : ∀ c ∈ (lit "\n  ").take k, isBlank c := fun c member =>
    (by decide : ∀ c ∈ lit "\n  ", isBlank c) c (List.mem_of_mem_take member)
  rw [List.take_append, trim, trimStart_pad blank]
  exact trim_unclosed (List.take_prefix _ _)

theorem columns_eq_nil_of_escaped
    (escaped : ¬(table.getLast? ≠ some '\\' ∧ column.getLast? ≠ some '\\'))
    (plain : ∀ c ∈ dataType, isQuote c = false) {source : Text} {t : Table}
    (read : readTable source (soleStatement table column dataType) = some t) : t.columns = [] := by
  obtain ⟨parts, cut, rfl⟩ := Option.map_eq_some_iff.mp read
  rw [soleStatement_eq validTable validColumn, readTableParts_eq validTable,
    ← soleStatement_eq validTable validColumn, soleStatement_split validTable validColumn] at cut
  obtain ⟨finish, found, body⟩ := Option.bind_eq_some_iff.mp cut
  obtain ⟨_, bound⟩ := lastUnquoted_bounds
    (hidden_soleStatement validTable validColumn escaped plain) found
  rw [List.take_append_of_le_length (Nat.le_of_lt bound), soleFront, List.drop_take, List.drop_left]
    at body
  have front := trim_take_soleFront column (finish -
    (statementHead (.quoted '\x60' table) false).length)
  generalize trim _ = inside at body front
  cases inside with
  | nil => cases body
  | cons c rest =>
    obtain rfl := Option.some.inj body
    exact readColumns_unclosed validColumn.2.2 front

/-- A table and its one column are read back under exactly the names that were quoted, and with that type
in capitals, unless one of the names ends in a backslash; then no column is read at all. -/
theorem readNames_soleStatement {type : TypeText} (validType : type.Valid)
    (together : [' '].intercalate type.words = dataType) (source : Text) :
    let text := soleStatement table column dataType
    let unescaped := table.getLast? ≠ some '\\' ∧ column.getLast? ≠ some '\\'
    (unescaped → readNames source text = some (table, [(column, upper type.joined)])) ∧
      (¬unescaped → (∀ c ∈ dataType, isQuote c = false) →
        ∀ t, readTable source text = some t → t.columns = []) := by
  intro text unescaped
  constructor
  · intro both
    exact readNames_of_unescaped validTable validColumn validType together both.1 both.2 source
  · intro escaped plain t read
    exact columns_eq_nil_of_escaped validTable validColumn escaped plain read

end

theorem readNames_soleStatement_of_prices :
    let type : TypeText := ⟨"DECIMAL", .attached "10,2", ["UNSIGNED"]⟩
    let table : Text := "price list (a\\b"
    let column : Text := "it's\\,\")"
    let dataType : Text := "DECIMAL(10,2) UNSIGNED"
    ((Identifier.quoted '\x60' table).Valid ∧ (Identifier.quoted '\x60' column).Valid ∧
        (Identifier.quoted '\x60' (column ++ lit "\\")).Valid ∧ type.Valid ∧
        [' '].intercalate type.words = dataType ∧ ∀ c ∈ dataType, isQuote c = false) ∧
      readNames "db" (soleStatement table column dataType) = some (table, [(column, dataType)]) ∧
      ∀ t, readTable "db" (soleStatement table (column ++ lit "\\") dataType) = some t →
        t.columns = [] := by
  intro type table column dataType
  have valid : (Identifier.quoted '\x60' table).Valid ∧ (Identifier.quoted '\x60' column).Valid ∧
      (Identifier.quoted '\x60' (column ++ lit "\\")).Valid ∧ type.Valid ∧
      [' '].intercalate type.words = dataType ∧ ∀ c ∈ dataType, isQuote c = false := by
    decide +kernel
  obtain ⟨validTable, validColumn, validEscaped, validType, together, plain⟩ := id valid
  have read := (readNames_soleStatement validTable validColumn validType together "db").1 (by decide)
  have capital : upper type.joined = dataType := by decide +kernel
  rw [capital] at read
  have lost := (readNames_soleStatement validTable validEscaped validType together "db").2
    (by decide) plain
  exact ⟨valid, read, lost⟩

/-- A mark inside a name is written twice, and the name is read up to the first of the two; a backslash
before the mark that ends a name hides that mark from the scan. -/
theorem readNames_soleStatement_of_marks :
    readNames [] (soleStatement "a\x60b" "c" "INT") = some (lit "a", [(lit "c", lit "INT")]) ∧
      readNames [] (soleStatement "t" "a\x60b" "INT") = some (lit "t", [(lit "a", lit "TEXT")]) ∧
      readNames [] (soleStatement "t\\" "c" "INT") = none ∧
      readNames [] (soleStatement "t" "c\\" "INT") = none ∧
      readNames [] (soleStatement "t" "c" "int") = some (lit "t", [(lit "c", lit "INT")]) := by
  decide +kernel

end SchemaDiff.Ddl
