import Mathlib.Data.List.Basic
import SchemaDiff.Ddl.CreateTable
import SchemaDiff.Proofs.Ddl.Identifier

/-
Statements that create a table, in one canonical layout. The name is read by patterns, the end of the
body is found by a scan of the whole statement, and the definitions are cut by a scan of the body
alone; on these statements the three agree.
-/
namespace SchemaDiff.Ddl
open SchemaDiff.Text SchemaDiff.Text.Pattern SchemaDiff.Sql

def statementHead (identifier : Identifier) (guarded : Bool) : Text :=
  "CREATE TABLE " ++ (provided guarded "IF NOT EXISTS " ++ (identifier.text ++ " ("))

def statement (identifier : Identifier) (guarded : Bool) (body options : Text) : Text :=
  statementHead identifier guarded ++ (body ++ ')' :: options)

theorem takes_createTable (t : Text) : createTable.Takes "CREATE TABLE" (lit " " ++ t) := by
  have words : (keywords ["CREATE", "TABLE"]).Takes (lit "CREATE" ++ (lit " " ++ lit "TABLE"))
      (lit " " ++ t) :=
    takes_keywords_cons (by decide) (by decide) (by decide)
      (startsDark_of_front (by decide) (by decide) _) (takes_keyword (by decide) _)
  have noBlanks : blanks.Takes [] (lit "CREATE" ++ (lit " " ++ lit "TABLE") ++ (lit " " ++ t)) :=
    takes_many (by simp) (startsDark_of_front (by decide) (by decide) _)
  exact takes_seq_cons noBlanks (takes_seq_singleton words)

theorem takes_createTable_gap {t : Text} (dark : StartsDark t) :
    (seq [createTable, blanks1]).Takes "CREATE TABLE " t := by
  have gap : blanks1.Takes (lit " ") t := takes_many1 (by decide) (by decide) dark
  exact takes_seq_cons (takes_createTable t) (takes_seq_singleton gap)

theorem takes_ifNotExists {t : Text} (dark : StartsDark t) :
    ifNotExists.Takes "IF NOT EXISTS " t := by
  have notExists : (keywords ["NOT", "EXISTS"]).Takes (lit "NOT" ++ (lit " " ++ lit "EXISTS"))
      (lit " " ++ t) :=
    takes_keywords_cons (by decide) (by decide) (by decide)
      (startsDark_of_front (by decide) (by decide) _) (takes_keyword (by decide) _)
  have words : (keywords ["IF", "NOT", "EXISTS"]).Takes
      (lit "IF" ++ (lit " " ++ (lit "NOT" ++ (lit " " ++ lit "EXISTS")))) (lit " " ++ t) :=
    takes_keywords_cons (by decide) (by decide) (by decide)
      (startsDark_of_front (by decide) (by decide) _) notExists
  have gap : blanks1.Takes (lit " ") t := takes_many1 (by decide) (by decide) dark
  exact takes_seq_cons words (takes_seq_singleton gap)

theorem ifNotExists_identifier {identifier : Identifier} (valid : identifier.Valid) (t : Text) :
    ifNotExists (identifier.text ++ (lit " (" ++ t)) = none := by
  have unguarded :
      keywords ["IF", "NOT", "EXISTS"] (identifier.text ++ (lit " (" ++ t)) = none := by
    cases identifier with
    | quoted mark name =>
      have other : fold mark ≠ 'I' := by rcases valid.1 with rfl | rfl <;> decide
      exact keywords_none_of_first (keyword_none other)
    | word name =>
      obtain ⟨solid, all⟩ := valid
      rcases name with _ | ⟨a, _ | ⟨b, _ | ⟨c, others⟩⟩⟩
      · contradiction
      · apply keywords_none_of_first
        rw [keyword, if_neg]
        intro same
        exact absurd (List.cons.inj (List.cons.inj same).2).1 (by decide)
      · have gap : blanks1 (' ' :: '(' :: t) = some 1 :=
          takes_many1 (u := [' ']) (by decide) (by decide) (by intro c first; cases first; decide)
        have paren : keywords ["NOT", "EXISTS"] ('(' :: t) = none :=
          keywords_none_of_first (keyword_none (by decide))
        exact keywords_none_of_later gap paren
      · apply keywords_none_of_gap
        have dark := isBlank_of_isWord (all c (by simp))
        exact blanks1_none fun d first => by cases first; exact dark
  rw [ifNotExists, seq, unguarded]

theorem readTableName_statement {identifier : Identifier} (valid : identifier.Valid)
    (guarded : Bool) (body options : Text) :
    readTableName (statement identifier guarded body options) =
      some (identifier.name, lit " (" ++ (body ++ ')' :: options)) := by
  have read : readIdentifier (identifier.text ++ (lit " (" ++ (body ++ ')' :: options))) =
      some (identifier.name, lit " (" ++ (body ++ ')' :: options)) :=
    readIdentifier_text valid (Identifier.ends_of_head (by intro c first; cases first; decide) _)
  have dark := startsDark_identifier valid (lit " (" ++ (body ++ ')' :: options))
  cases guarded with
  | false =>
    have shape : statement identifier false body options =
        lit "CREATE TABLE " ++ (identifier.text ++ (lit " (" ++ (body ++ ')' :: options))) := by
      simp [statement, statementHead, provided]
    have taken := takes_createTable_gap dark
    rw [Takes] at taken
    rw [readTableName, shape, taken]
    simp only [List.drop_left, ifNotExists_identifier valid, Option.bind_none, Option.none_or, read]
  | true =>
    have shape : statement identifier true body options =
        lit "CREATE TABLE " ++ (lit "IF NOT EXISTS " ++
          (identifier.text ++ (lit " (" ++ (body ++ ')' :: options)))) := by
      simp [statement, statementHead, provided]
    have guardDark : StartsDark (lit "IF NOT EXISTS " ++
        (identifier.text ++ (lit " (" ++ (body ++ ')' :: options)))) :=
      startsDark_of_front (by decide) (by decide) _
    have taken := takes_createTable_gap guardDark
    have guard := takes_ifNotExists dark
    rw [Takes] at taken guard
    rw [readTableName, shape, taken]
    simp only [List.drop_left, guard, Option.bind_some, read, Option.some_or]

theorem isCreateTable_statement (identifier : Identifier) (guarded : Bool) (body options : Text) :
    isCreateTable (statement identifier guarded body options) := by
  have shape : ∃ t, statement identifier guarded body options =
      lit "CREATE TABLE" ++ [] ++ (lit " " ++ t) := ⟨_, rfl⟩
  obtain ⟨t, shape⟩ := shape
  have ends : wordEnd.Takes [] (lit " " ++ t) := rfl
  have whole : (seq [createTable, wordEnd]).Takes (lit "CREATE TABLE" ++ []) (lit " " ++ t) :=
    takes_seq_cons (takes_createTable t) (takes_seq_singleton ends)
  rw [Takes] at whole
  rw [isCreateTable, shape, whole]
  rfl

theorem closed_statementHead {identifier : Identifier} (valid : identifier.Valid)
    (unescaped : identifier.Unescaped) (guarded : Bool) :
    Closed (statementHead identifier guarded) := by
  have create : (QuoteState.start.after "CREATE TABLE ").opener = none := by decide
  have guard : ((QuoteState.start.after "CREATE TABLE ").after
      (provided guarded "IF NOT EXISTS ")).opener = none := by cases guarded <;> decide
  have name := after_identifier guard valid unescaped
  rw [Closed, statementHead, QuoteState.after_append, QuoteState.after_append,
    QuoteState.after_append]
  exact QuoteState.after_plain name (by decide)

theorem lastUnquoted_statement {identifier : Identifier} (valid : identifier.Valid)
    (unescaped : identifier.Unescaped) (guarded : Bool) {body options : Text}
    (closed : Closed body) (hidden : Hidden (· == ')') .start options) {start : Int}
    (reached : start ≤ (statementHead identifier guarded ++ body).length) :
    lastUnquoted (· == ')') start (statement identifier guarded body options) =
      some (statementHead identifier guarded ++ body).length := by
  have bodyClosed :
      (QuoteState.start.after (statementHead identifier guarded ++ body)).opener = none := by
    rw [QuoteState.after_append,
      QuoteState.opener_after_of_closed (closed_statementHead valid unescaped guarded)]
    exact closed
  rw [statement, ← List.append_assoc]
  exact lastUnquoted_eq reached rfl (QuoteState.feed_plain bodyClosed rfl) hidden

theorem readTableParts_eq {identifier : Identifier} (valid : identifier.Valid) (guarded : Bool)
    (body options : Text) :
    readTableParts (statement identifier guarded body options) =
      (lastUnquoted (· == ')') (statementHead identifier guarded).length
        (statement identifier guarded body options)).bind fun finish =>
          let inside := trim (((statement identifier guarded body options).take finish).drop
            (statementHead identifier guarded).length)
          if inside = [] then none
          else some {
            name := identifier.name, body := inside
            options := trim ((statement identifier guarded body options).drop (finish + 1)) } := by
  have opening : (lit " (" ++ (body ++ ')' :: options)).findIdx? (· == '(') = some 1 := rfl
  have start : (statement identifier guarded body options).length
      - (lit " (" ++ (body ++ ')' :: options)).length + 1 + 1
        = (statementHead identifier guarded).length := by
    have two : (lit " (").length = 2 := rfl
    have tail : 2 ≤ (statementHead identifier guarded).length := by
      simp only [statementHead, List.length_append, two]
      omega
    simp only [statement, List.length_append, two]
    omega
  simp only [readTableParts, readTableName_statement valid, opening, start, Option.bind_eq_bind,
    Option.bind_some]
  refine congrArg (Option.bind _) (funext fun finish => ?_)
  cases trim (((statement identifier guarded body options).take finish).drop
    (statementHead identifier guarded).length) <;> rfl

theorem readTableParts_statement {identifier : Identifier} (valid : identifier.Valid)
    (unescaped : identifier.Unescaped) (guarded : Bool) {body options : Text}
    (closed : Closed body) (solid : trim body ≠ [])
    (hidden : Hidden (· == ')') .start options) :
    readTableParts (statement identifier guarded body options) =
      some { name := identifier.name, body := trim body, options := trim options } := by
  have reached : ((statementHead identifier guarded).length : Int) ≤
      (statementHead identifier guarded ++ body).length := by
    rw [List.length_append]
    omega
  have finish := lastUnquoted_statement valid unescaped guarded closed hidden reached
  have inside : ((statement identifier guarded body options).take
      (statementHead identifier guarded ++ body).length).drop
        (statementHead identifier guarded).length = body := by
    rw [statement, ← List.append_assoc, List.take_left, List.drop_left]
  have outside : (statement identifier guarded body options).drop
      ((statementHead identifier guarded ++ body).length + 1) = options := by
    rw [statement, ← List.append_assoc, ← List.drop_drop, List.drop_left]
    rfl
  rw [readTableParts_eq valid, finish, Option.bind_some, inside, outside, if_neg solid]

/-- One definition of a body, as the splitter of bodies gives it. -/
abbrev Item (f : Text) : Prop := Piece .tracked (· == ',') f

theorem definitions_intercalate {items : List Text} (all : ∀ f ∈ items, Item f) :
    definitions ((lit ", ").intercalate items) = items := by
  have blank : Gap (· == ',') [' '] := by decide
  exact splitTopLevel_intercalate ⟨rfl, rfl⟩ blank all

theorem closed_items {items : List Text} (all : ∀ f ∈ items, Item f) :
    Closed ((lit ", ").intercalate items) := by
  have separator : Closed (lit ", ") := by decide
  exact closed_intercalate separator fun f member =>
    ScanState.closed_of_isTopLevel (all f member).ends

theorem trim_items {items : List Text} (someItems : items ≠ []) (all : ∀ f ∈ items, Item f) :
    trim ((lit ", ").intercalate items) = (lit ", ").intercalate items :=
  trim_intercalate someItems fun f member => ⟨(all f member).solid, (all f member).trimmed⟩

theorem name_readColumn {f : Text} (trimmed : trim f = f) :
    (readColumn f).map Column.name =
      if isConstraint f then none else (readIdentifier f).map Prod.fst := by
  rw [readColumn, trimmed]
  split
  · rfl
  · cases readIdentifier f <;> rfl

theorem names_readColumn {items : List Text} (all : ∀ f ∈ items, Item f) :
    (items.filterMap readColumn).map Column.name =
      (items.filter fun f => !isConstraint f).filterMap fun f => (readIdentifier f).map Prod.fst := by
  rw [List.map_filterMap, List.filterMap_filter]
  apply List.filterMap_congr
  intro f member
  rw [name_readColumn (all f member).trimmed]
  cases isConstraint f <;> rfl

/-- Of a statement with these items, the name, the body and the options are read back as they were
written; the body is cut into these items; and the columns are those that the items declare, one for
each item that is no constraint and begins with an identifier. An item may even close more
parentheses than it has opened, as long as it opens them again. -/
theorem readTable_statement {identifier : Identifier} (valid : identifier.Valid)
    (unescaped : identifier.Unescaped) (guarded : Bool) {items : List Text}
    (someItems : items ≠ []) (all : ∀ f ∈ items, Item f) {options : Text}
    (hidden : Hidden (· == ')') .start options) (source : Text) :
    let body := (lit ", ").intercalate items
    readTableParts (statement identifier guarded body options) =
        some { name := identifier.name, body, options := trim options } ∧
      definitions body = items ∧
      ∃ table, readTable source (statement identifier guarded body options) = some table ∧
        table.name = identifier.name ∧ table.source = source ∧
        table.columns = items.filterMap readColumn ∧
        table.columns.map Column.name =
          (items.filter fun f => !isConstraint f).filterMap
            fun f => (readIdentifier f).map Prod.fst := by
  intro body
  have trimmed : trim body = body := trim_items someItems all
  have ends : body ≠ [] ∧ EndsDark body := endsDark_intercalate someItems fun f member =>
    ⟨(all f member).solid, (trim_eq_self_iff.mp (all f member).trimmed).2⟩
  have parts := readTableParts_statement valid unescaped guarded (closed_items all)
    (by rw [trim_items someItems all]; exact ends.1) hidden
  rw [trimmed] at parts
  refine ⟨parts, definitions_intercalate all, _, by rw [readTable, parts]; rfl, rfl, rfl, ?_, ?_⟩
  · exact congrArg (List.filterMap readColumn) (definitions_intercalate all)
  · rw [← names_readColumn all]
    exact congrArg (fun fs => (List.filterMap readColumn fs).map Column.name)
      (definitions_intercalate all)

theorem readTable_statement_with_literals :
    let identifier := Identifier.quoted '\x60' "it's (1"
    let items : List Text :=
      ["a ENUM('x, y', ')') DEFAULT ')'", "PRIMARY KEY (a)", "\x60b,\x60 INT COMMENT 'it\\'s'"]
    let options : Text := " ENGINE=InnoDB COMMENT='a) b'"
    (identifier.Valid ∧ identifier.Unescaped ∧ items ≠ [] ∧ (∀ f ∈ items, Item f) ∧
        Hidden (· == ')') .start options) ∧
      ∃ table, readTable "db" (statement identifier true ((lit ", ").intercalate items) options)
          = some table ∧
        table.name = "it's (1" ∧ table.columns.map Column.name = [lit "a", lit "b,"] := by
  intro identifier items options
  have hypotheses : identifier.Valid ∧ identifier.Unescaped ∧ items ≠ [] ∧ (∀ f ∈ items, Item f) ∧
      Hidden (· == ')') .start options := by decide +kernel
  obtain ⟨valid, unescaped, someItems, all, hidden⟩ := hypotheses
  obtain ⟨_, _, table, read, name, _, _, columns⟩ :=
    readTable_statement valid unescaped true someItems all hidden "db"
  refine ⟨⟨valid, unescaped, someItems, all, hidden⟩, table, read, name, ?_⟩
  rw [columns]
  decide +kernel

end SchemaDiff.Ddl
