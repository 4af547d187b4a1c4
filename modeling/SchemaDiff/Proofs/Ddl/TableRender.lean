import SchemaDiff.Proofs.Ddl.ColumnRender
import SchemaDiff.Proofs.Ddl.TableOption
import SchemaDiff.Proofs.Ddl.TableStatement

/-
Tables as they are written. A rendered table keeps its meaning when blanks are squeezed: it becomes a
statement in the canonical layout, with one space before and after the body, which is read as the
table that it was written for.
-/
namespace SchemaDiff.Ddl
open SchemaDiff.Text SchemaDiff.Text.Pattern SchemaDiff.Sql

/-- A word that squeezing leaves as it is and that neither statements nor definitions are cut in. -/
structure Steady (w : Text) : Prop where
  item : Whole .tracked (· == ',') w
  statement : Whole .ignored (· == ';') w
  tidy : Tidy w

instance (w : Text) : Decidable (Steady w) :=
  decidable_of_iff (Whole .tracked (· == ',') w ∧ Whole .ignored (· == ';') w ∧ Tidy w)
    ⟨fun h => ⟨h.1, h.2.1, h.2.2⟩, fun h => ⟨h.item, h.statement, h.tidy⟩⟩

/-- A name that can be quoted: no mark inside, no backslash before the closing one, and no blanks but
isolated spaces. -/
structure SteadyName (name : Text) : Prop where
  valid : (Identifier.quoted '\x60' name).Valid
  unescaped : (Identifier.quoted '\x60' name).Unescaped
  tidy : Tidy name

instance (name : Text) : Decidable (SteadyName name) :=
  decidable_of_iff ((Identifier.quoted '\x60' name).Valid ∧
      (Identifier.quoted '\x60' name).Unescaped ∧ Tidy name)
    ⟨fun h => ⟨h.1, h.2.1, h.2.2⟩, fun h => ⟨h.valid, h.unescaped, h.tidy⟩⟩

/-- A column that can be written and read back, its type and default being these words. -/
structure Renderable (c : Column) (type : TypeText) (default : Option (List Text)) : Prop where
  name : SteadyName c.name
  spelled : Spelled c type default
  steadyType : ∀ w ∈ type.words, Steady w
  steadyDefault : ∀ v ∈ default, ∀ w ∈ v, Steady w
  steadyCharset : ∀ w ∈ c.charset, Steady w
  steadyCollation : ∀ w ∈ c.collation, Steady w

instance (c : Column) (type : TypeText) (default : Option (List Text)) :
    Decidable (Renderable c type default) :=
  decidable_of_iff (SteadyName c.name ∧ Spelled c type default ∧ (∀ w ∈ type.words, Steady w) ∧
      (∀ v ∈ default, ∀ w ∈ v, Steady w) ∧ (∀ w ∈ c.charset, Steady w) ∧
      ∀ w ∈ c.collation, Steady w)
    ⟨fun h => ⟨h.1, h.2.1, h.2.2.1, h.2.2.2.1, h.2.2.2.2.1, h.2.2.2.2.2⟩,
      fun h => ⟨h.name, h.spelled, h.steadyType, h.steadyDefault, h.steadyCharset,
        h.steadyCollation⟩⟩

def RenderableColumn (c : Column) : Prop := ∃ type default, Renderable c type default

structure RenderableTable (t : Table) : Prop where
  name : SteadyName t.name
  someColumns : t.columns ≠ []
  columns : ∀ c ∈ t.columns, RenderableColumn c
  engine : ∀ v ∈ t.engine, OptionValue v
  charset : ∀ v ∈ t.charset, OptionValue v
  collation : ∀ v ∈ t.collation, OptionValue v

theorem whole_spaced {parens : Parens} {isDelimiter : Char → Bool}
    (gap : Whole parens isDelimiter [' ']) {words : List Text}
    (all : ∀ w ∈ words, Whole parens isDelimiter w) : Whole parens isDelimiter (spaced words) := by
  induction words with
  | nil => exact whole_plain (by simp [spaced]) (by simp [spaced])
  | cons w others ih =>
    have later := ih fun v member => all v (List.mem_cons_of_mem w member)
    exact whole_append (whole_append gap (all w List.mem_cons_self)) later

theorem tidy_spaced {words : List Text} (tokens : ∀ w ∈ words, Token w) (all : ∀ w ∈ words, Tidy w) :
    Tidy (spaced words) := by
  induction words with
  | nil => rfl
  | cons w others ih =>
    have later := ih (fun v member => tokens v (List.mem_cons_of_mem w member))
      fun v member => all v (List.mem_cons_of_mem w member)
    have token := tokens w List.mem_cons_self
    obtain ⟨first, last⟩ := trim_eq_self_iff.mp token.trimmed
    have gap : squeeze ([' '] ++ w) = [' '] ++ w := by
      rw [squeeze_append_of_startsDark first, show squeeze w = w from all w List.mem_cons_self]
      rfl
    have ends : EndsDark ([' '] ++ w) := (endsDark_append token.solid).mpr last
    exact tidy_append ends gap later

theorem steady_of_word {w : Text} (word : ∀ c ∈ w, isWord c) : Steady w where
  item := whole_of_isWord (fun _ => beq_of_isWord rfl) word
  statement := whole_of_isWord (fun _ => beq_of_isWord rfl) word
  tidy := tidy_of_dark fun c member => isBlank_of_isWord (word c member)

theorem steady_keywords (clause : Clause) : ∀ k ∈ clause.keywords, Steady k := by
  intro k member
  have spelled := inAnyCase_keywords clause k member
  exact steady_of_word (isWord_of_inAnyCase spelled (isCapital_keywords clause k member))

section

variable {c : Column} {type : TypeText} {default : Option (List Text)}

theorem steady_operands (renderable : Renderable c type default) {w : Written}
    (member : w ∈ renderedClauses false c default) : ∀ x ∈ w.clause.operands, Steady x := by
  obtain ⟨_, clause⟩ := mem_renderedClauses member
  intro x operand
  rcases clause with ⟨v, value, shape⟩ | ⟨v, value, shape⟩ | null | ⟨v, value, shape⟩ | shape
  · rw [shape] at operand
    obtain rfl := List.mem_singleton.mp operand
    exact renderable.steadyCharset x value
  · rw [shape] at operand
    obtain rfl := List.mem_singleton.mp operand
    exact renderable.steadyCollation x value
  · rcases null with shape | shape
    · rw [shape] at operand
      cases operand
    · rw [shape] at operand
      cases operand
  · rw [shape] at operand
    exact renderable.steadyDefault v value x operand
  · rw [shape] at operand
    cases operand

theorem steady_renderedClauses (renderable : Renderable c type default) :
    ∀ w ∈ (renderedClauses false c default).flatMap Written.words, Steady w := by
  intro x member
  obtain ⟨w, listed, inside⟩ := List.mem_flatMap.mp member
  rcases List.mem_append.mp inside with keyword | operand
  · rw [(mem_renderedClauses listed).1] at keyword
    exact steady_keywords _ x keyword
  · exact steady_operands renderable listed x operand

theorem steady_renderedWords (renderable : Renderable c type default) :
    ∀ w ∈ renderedWords false c type default, Steady w := by
  intro w member
  rcases List.mem_append.mp member with ofType | ofClause
  · exact renderable.steadyType w ofType
  · exact steady_renderedClauses renderable w ofClause

theorem whole_identifier {parens : Parens} {isDelimiter : Char → Bool} {name : Text}
    (steady : SteadyName name) (kept : isDelimiter '\x60' = false) :
    Whole parens isDelimiter (Identifier.quoted '\x60' name).text :=
  whole_quoted rfl steady.valid.2.2 steady.unescaped kept

theorem tidy_identifier {name : Text} (tidy : Tidy name) :
    Tidy (Identifier.quoted '\x60' name).text := by
  have mark : EndsDark ['\x60'] := by decide
  have front : StartsDark ['\x60'] := by decide
  have inner : Tidy (name ++ ['\x60']) := by
    rw [Tidy, squeeze_append_of_startsDark front, show squeeze name = name from tidy]
    rfl
  have whole : Tidy (['\x60'] ++ (name ++ ['\x60'])) := tidy_append mark rfl inner
  exact whole

theorem whole_definitionText {parens : Parens} {isDelimiter : Char → Bool} {name : Text}
    (steady : SteadyName name) (kept : isDelimiter '\x60' = false)
    (gap : Whole parens isDelimiter [' ']) {words : List Text}
    (all : ∀ w ∈ words, Whole parens isDelimiter w) :
    Whole parens isDelimiter (definitionText (.quoted '\x60' name) words) := by
  rw [definitionText_spaced]
  exact whole_append (whole_identifier steady kept) (whole_spaced gap all)

theorem steady_column (renderable : Renderable c type default) :
    Item (({} : Style).column none false c) ∧ Steady (({} : Style).column none false c) := by
  have spelled := renderable.spelled
  have valid := spelled.validName
  have steady := steady_renderedWords renderable
  have tokens : ∀ w ∈ renderedWords false c type default, Token w :=
    tokens_definition spelled.validType (valid_renderedClauses spelled)
  have someWords : renderedWords false c type default ≠ [] := by simp [renderedWords, words_ne_nil]
  have trimmed := trim_definitionText valid someWords tokens
  rw [column_eq false spelled]
  have solid : definitionText (.quoted '\x60' c.name) (renderedWords false c type default) ≠ [] := by
    rw [definitionText_spaced, Identifier.text]
    simp
  have item : Whole .tracked (· == ',')
      (definitionText (.quoted '\x60' c.name) (renderedWords false c type default)) :=
    whole_definitionText renderable.name rfl (by decide) fun w member => (steady w member).item
  have statement : Whole .ignored (· == ';')
      (definitionText (.quoted '\x60' c.name) (renderedWords false c type default)) :=
    whole_definitionText renderable.name rfl (by decide) fun w member => (steady w member).statement
  have tidy : Tidy (definitionText (.quoted '\x60' c.name) (renderedWords false c type default)) := by
    rw [definitionText_spaced]
    exact tidy_append (endsDark_identifier renderable.name.valid) (tidy_identifier renderable.name.tidy)
      (tidy_spaced tokens fun w member => (steady w member).tidy)
  exact ⟨{ toWhole := item, solid, trimmed }, item, statement, tidy⟩

end

theorem clauseLines_eq {clauses : List Text} (someClauses : clauses ≠ []) :
    clauseLines clauses = lit "  " ++ (lit ",\n  ").intercalate clauses := by
  rw [clauseLines]
  induction clauses with
  | nil => contradiction
  | cons c others ih =>
    cases others with
    | nil => simp only [List.map_cons, List.map_nil, List.intercalate_singleton]
    | cons d others =>
      rw [List.map_cons] at ih ⊢
      rw [List.map_cons, List.intercalate_cons_cons, ih (List.cons_ne_nil d others),
        List.intercalate_cons_cons]
      simp only [List.append_assoc]
      rfl

def columnTexts (t : Table) : List Text := t.columns.map (({} : Style).column none false)

def renderedStatement (t : Table) : Text :=
  statement (.quoted '\x60' t.name) false (lit " " ++ ((lit ", ").intercalate (columnTexts t) ++ lit " "))
    (optionsText t.engine t.charset t.collation)

section

variable {t : Table}

theorem items_columnTexts (renderable : RenderableTable t) : ∀ f ∈ columnTexts t, Item f ∧ Steady f := by
  intro f member
  obtain ⟨c, listed, rfl⟩ := List.mem_map.mp member
  obtain ⟨type, default, columnRenderable⟩ := renderable.columns c listed
  exact steady_column columnRenderable

theorem dark_columnTexts (renderable : RenderableTable t) :
    ∀ f ∈ columnTexts t, f ≠ [] ∧ StartsDark f ∧ EndsDark f := by
  intro f member
  have item := (items_columnTexts renderable f member).1
  exact ⟨item.solid, trim_eq_self_iff.mp item.trimmed⟩

theorem columnTexts_ne_nil (renderable : RenderableTable t) : columnTexts t ≠ [] := by
  rw [columnTexts, ne_eq, List.map_eq_nil_iff]
  exact renderable.someColumns

theorem endsDark_statementHead (identifier : Identifier) (guarded : Bool) :
    EndsDark (statementHead identifier guarded) := by
  have last : EndsDark (lit " (") := by decide
  rw [statementHead, ← List.append_assoc, ← List.append_assoc]
  exact (endsDark_append (by decide)).mpr last

theorem tidy_statementHead {name : Text} (steady : SteadyName name) :
    Tidy (statementHead (.quoted '\x60' name) false) := by
  have rest : Tidy ((Identifier.quoted '\x60' name).text ++ lit " (") :=
    tidy_append (endsDark_identifier steady.valid) (tidy_identifier steady.tidy) (by decide)
  have dark := startsDark_identifier steady.valid (lit " (")
  have unguarded : provided (false = true) "IF NOT EXISTS " = [] := rfl
  rw [Tidy, statementHead, unguarded, List.nil_append, squeeze_append_of_startsDark dark,
    show squeeze _ = _ from rest]
  rfl

theorem createTable_eq (renderable : RenderableTable t) :
    ({} : Style).createTable t = statementHead (.quoted '\x60' t.name) false ++
      (lit "\n  " ++ ((lit ",\n  ").intercalate (columnTexts t) ++
        (lit "\n" ++ (lit ")" ++ (optionsText t.engine t.charset t.collation ++ lit ";"))))) := by
  have engine : present t.engine = t.engine :=
    present_of_solid fun v value => (renderable.engine v value).solid
  have charset : present t.charset = t.charset :=
    present_of_solid fun v value => (renderable.charset v value).solid
  have collation : present t.collation = t.collation :=
    present_of_solid fun v value => (renderable.collation v value).solid
  have lines := clauseLines_eq (columnTexts_ne_nil renderable)
  rw [columnTexts] at lines ⊢
  rw [Style.createTable, identifier_eq renderable.name.valid, lines, engine, charset, collation,
    statementHead, optionsText, lead, lead, lead]
  simp only [List.append_assoc, provided]
  rfl

theorem squeeze_createTable (renderable : RenderableTable t) :
    squeeze (({} : Style).createTable t) = renderedStatement t ++ [';'] := by
  have dark := dark_columnTexts renderable
  have someColumns := columnTexts_ne_nil renderable
  have same : (columnTexts t).map squeeze = columnTexts t :=
    map_squeeze fun f member => (items_columnTexts renderable f member).2.tidy
  have startsBody : StartsDark ((lit ",\n  ").intercalate (columnTexts t)) :=
    startsDark_intercalate someColumns fun f member => ⟨(dark f member).1, (dark f member).2.1⟩
  have endsBody : (lit ",\n  ").intercalate (columnTexts t) ≠ [] ∧
      EndsDark ((lit ",\n  ").intercalate (columnTexts t)) :=
    endsDark_intercalate someColumns fun f member => ⟨(dark f member).1, (dark f member).2.2⟩
  have body : squeeze ((lit ",\n  ").intercalate (columnTexts t)) =
      (lit ", ").intercalate (columnTexts t) := by
    rw [squeeze_intercalate dark, same]
    rfl
  have closing : Tidy (lit ")" ++ (optionsText t.engine t.charset t.collation ++ lit ";")) := by
    apply tidy_append (by decide) (by decide)
    apply tidy_append
    · exact endsDark_optionsText renderable.engine renderable.charset renderable.collation
    · exact tidy_optionsText renderable.engine renderable.charset renderable.collation
    · decide
  have paren : StartsDark (lit ")" ++ (optionsText t.engine t.charset t.collation ++ lit ";")) := by
    intro c first
    cases first
    decide
  rw [createTable_eq renderable, squeeze_append_of_endsDark (endsDark_statementHead _ _),
    squeeze_append_of_startsDark (startsDark_of_front endsBody.1 startsBody _),
    squeeze_append_of_endsDark endsBody.2, squeeze_append_of_startsDark paren, body,
    show squeeze (statementHead (.quoted '\x60' t.name) false) = _ from
      tidy_statementHead renderable.name, show squeeze _ = _ from closing]
  have lineBreak : squeeze (lit "\n  ") = lit " " ∧ squeeze (lit "\n") = lit " " := by decide
  rw [lineBreak.1, lineBreak.2, renderedStatement, statement]
  simp only [List.append_assoc, List.cons_append]
  rfl

theorem whole_renderedStatement (renderable : RenderableTable t) :
    Whole .ignored (· == ';') (renderedStatement t) := by
  have name : Whole .ignored (· == ';') (Identifier.quoted '\x60' t.name).text :=
    whole_identifier renderable.name rfl
  have inert := inert_optionsText renderable.engine renderable.charset renderable.collation
  have options : Whole .ignored (· == ';') (optionsText t.engine t.charset t.collation) :=
    whole_plain (fun c member => (inert c member).1) fun c member => by simpa using (inert c member).2
  have columns : Whole .ignored (· == ';') ((lit ", ").intercalate (columnTexts t)) :=
    whole_intercalate (by decide) fun f member => (items_columnTexts renderable f member).2.statement
  have head : Whole .ignored (· == ';') (statementHead (.quoted '\x60' t.name) false) :=
    whole_append (by decide) (whole_append (by decide) (whole_append name (by decide)))
  have body : Whole .ignored (· == ';')
      (lit " " ++ ((lit ", ").intercalate (columnTexts t) ++ lit " ")) :=
    whole_append (by decide) (whole_append columns (by decide))
  have tail : Whole .ignored (· == ';') (lit ")" ++ optionsText t.engine t.charset t.collation) :=
    whole_append (by decide) options
  exact whole_append head (whole_append body tail)

theorem piece_renderedStatement (renderable : RenderableTable t) :
    Piece .ignored (· == ';') (renderedStatement t) := by
  have solid : renderedStatement t ≠ [] := List.cons_ne_nil 'C' _
  have starts : StartsDark (renderedStatement t) := by
    intro c first
    cases first
    decide
  have ends : EndsDark (renderedStatement t) := by
    have tail : EndsDark (lit ")" ++ optionsText t.engine t.charset t.collation) :=
      endsDark_both (by decide)
        (endsDark_optionsText renderable.engine renderable.charset renderable.collation)
    have someTail : lit ")" ++ optionsText t.engine t.charset t.collation ≠ [] :=
      List.cons_ne_nil ')' _
    rw [renderedStatement, statement, ← List.append_assoc]
    exact (endsDark_append someTail).mpr tail
  exact {
    toWhole := whole_renderedStatement renderable
    solid
    trimmed := trim_eq_of_dark starts ends }

theorem readColumns_columnTexts (renderable : RenderableTable t) :
    (columnTexts t).filterMap readColumn =
      t.columns.map fun c => { c with definition := ({} : Style).column none false c } := by
  have each : ∀ c ∈ t.columns, (readColumn ∘ ({} : Style).column none false) c =
      (some ∘ fun c => { c with definition := ({} : Style).column none false c }) c := by
    intro c listed
    obtain ⟨type, default, columnRenderable⟩ := renderable.columns c listed
    rw [Function.comp_apply, Function.comp_apply]
    exact readColumn_column false columnRenderable.spelled
  rw [columnTexts, List.filterMap_map, List.filterMap_congr each, List.filterMap_eq_map]

theorem readTable_renderedStatement (renderable : RenderableTable t) (source : Text) :
    ∃ u, readTable source (renderedStatement t) = some u ∧ u.Agrees { t with source } := by
  have items : ∀ f ∈ columnTexts t, Item f := fun f member => (items_columnTexts renderable f member).1
  have someItems := columnTexts_ne_nil renderable
  have trimmed : trim (lit " " ++ ((lit ", ").intercalate (columnTexts t) ++ lit " ")) =
      (lit ", ").intercalate (columnTexts t) := by
    rw [← List.append_assoc]
    exact trim_pad (by decide) (by decide) (trim_items someItems items)
  have solid : (lit ", ").intercalate (columnTexts t) ≠ [] :=
    (endsDark_intercalate someItems fun f member =>
      ⟨(items f member).solid, (trim_eq_self_iff.mp (items f member).trimmed).2⟩).1
  have closed : Closed (lit " " ++ ((lit ", ").intercalate (columnTexts t) ++ lit " ")) :=
    closed_append (by decide) (closed_append (closed_items items) (by decide))
  have inert := inert_optionsText renderable.engine renderable.charset renderable.collation
  have hidden : Hidden (· == ')') .start (optionsText t.engine t.charset t.collation) :=
    hidden_of_absent (fun c member => by simpa using (isPlain_iff.mp (inert c member).1).2.2) _
  have parts := readTableParts_statement renderable.name.valid renderable.name.unescaped false closed
    (by rwa [trimmed]) hidden
  have options := readTableOptions_trim renderable.engine renderable.charset renderable.collation
  rw [trimmed] at parts
  refine ⟨_, by rw [readTable, renderedStatement, parts, Option.map_some], ?_⟩
  rw [Table.Agrees, Table.bare, Table.bare, TableParts.table]
  simp only [options, definitions_intercalate items, readColumns_columnTexts renderable, List.map_map]
  rfl

end

end SchemaDiff.Ddl
