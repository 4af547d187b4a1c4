import SchemaDiff.Proofs.Ddl.ColumnClauses
import SchemaDiff.Proofs.Ddl.ColumnText

/-
Definitions of columns: an identifier and words with single spaces between them. Cutting gives the
words back, so that each attribute of the column is read from them.
-/
namespace SchemaDiff.Ddl
open SchemaDiff.Text SchemaDiff.Text.Pattern SchemaDiff.Sql

def definitionText (identifier : Identifier) (words : List Text) : Text :=
  [' '].intercalate (identifier.text :: words)

/-- A bare name is none of the words with which keys and constraints begin. -/
def NamesColumn : Identifier → Prop
  | .quoted _ _ => True
  | .word name => ∀ head ∈ constraintHeads, head.head? ≠ some (upper name)

instance : DecidablePred NamesColumn
  | .quoted _ _ => inferInstanceAs (Decidable True)
  | .word _ => inferInstanceAs (Decidable (∀ head ∈ constraintHeads, _))

theorem definitionText_eq (identifier : Identifier) {words : List Text} (someWords : words ≠ []) :
    definitionText identifier words = identifier.text ++ ' ' :: [' '].intercalate words := by
  cases words with
  | nil => contradiction
  | cons w others =>
    rw [definitionText, List.intercalate_cons_cons, List.append_assoc]
    rfl

theorem declaresColumn_of_namesColumn {identifier : Identifier} (names : NamesColumn identifier)
    (next : Text) : DeclaresColumn identifier next := by
  cases identifier with
  | quoted mark name => trivial
  | word name =>
    intro head known front
    apply names head known
    cases head with
    | nil => exact absurd known (by decide)
    | cons first others => exact congrArg some (List.cons_prefix_cons.mp front).1

theorem trim_definitionText {identifier : Identifier} (valid : identifier.Valid)
    {words : List Text} (someWords : words ≠ []) (tokens : ∀ w ∈ words, Token w) :
    trim (definitionText identifier words) = definitionText identifier words := by
  apply trim_eq_of_dark
  · rw [definitionText_eq identifier someWords]
    exact startsDark_identifier valid _
  · have ends : [' '].intercalate words ≠ [] ∧ EndsDark ([' '].intercalate words) :=
      endsDark_intercalate someWords fun w member =>
        ⟨(tokens w member).solid, (trim_eq_self_iff.mp (tokens w member).trimmed).2⟩
    have shape : definitionText identifier words =
        (identifier.text ++ [' ']) ++ [' '].intercalate words := by
      rw [definitionText_eq identifier someWords, List.append_assoc]
      rfl
    rw [shape]
    exact (endsDark_append ends.1).mpr ends.2

theorem readColumn_definitionText {identifier : Identifier} (valid : identifier.Valid)
    (names : NamesColumn identifier) {words : List Text} (someWords : words ≠ [])
    (tokens : ∀ w ∈ words, Token w) :
    readColumn (definitionText identifier words) = some {
      name := identifier.name
      dataType := readType words
      isNullable := !isNotNull words
      defaultValue := readDefault words
      autoIncrement := isAutoIncrement words
      charset := readCharset words
      collation := readCollation words
      definition := definitionText identifier words } := by
  have trimmed := trim_definitionText valid someWords tokens
  rw [definitionText_eq identifier someWords] at trimmed ⊢
  have stops : ∀ c ∈ (' ' :: [' '].intercalate words).head?, isWord c = false := by
    intro c space
    cases space
    decide
  have read := readColumn_identifier valid (Identifier.ends_of_head stops _) (declaresColumn_of_namesColumn names _)
  rw [trimmed, definitionWords_spaced tokens] at read
  exact read

theorem columnOf_cons {w : Text} (free : upper w ∉ attributeWords) (name : Text) (words : List Text) (t : Text) :
    columnOf name (w :: words) t = { columnOf name words t with dataType := readType (w :: words) } := by
  have absent {keys : List Text} (known : ∀ k ∈ keys, k ∈ attributeWords) : upper w ∉ keys :=
    fun listed => free (known _ listed)
  simp [columnOf, isNotNull_cons (absent (by decide)), readDefault_cons (absent (by decide)),
    isAutoIncrement_cons (absent (by decide)), readCharset_cons (absent (by decide)),
    readCollation_cons (absent (by decide))]

theorem endsType_clauses {ws : List Written} (valid : ∀ w ∈ ws, w.Valid) :
    EndsType (ws.flatMap Written.words) := by
  cases ws with
  | nil => simp [EndsType]
  | cons w others =>
    obtain ⟨first, more, k, form, front, spelled⟩ := first_word (valid w List.mem_cons_self)
    have capitals := isCapital_keywords w.clause k (List.mem_of_mem_head? front)
    have apart : k ∉ typeModifiers := by
      revert front
      cases w.clause <;> simp [Clause.keywords] <;> rintro rfl <;> decide
    intro x head
    rw [List.flatMap_cons, form] at head
    cases head
    rw [upper_of_inAnyCase spelled capitals]
    exact ⟨isParenthesised_word (isWord_of_inAnyCase spelled capitals), apart⟩

theorem tokens_definition {type : TypeText} (validType : type.Valid) {ws : List Written}
    (valid : ∀ w ∈ ws, w.Valid) : ∀ x ∈ type.words ++ ws.flatMap Written.words, Token x := by
  intro x member
  rcases List.mem_append.mp member with ofType | ofClause
  · exact tokens_type validType x ofType
  · obtain ⟨w, listed, inside⟩ := List.mem_flatMap.mp ofClause
    exact tokens_clause (valid w listed) x inside

theorem read_after_type {β : Type} {read : List Text → β} {keys : List Text}
    (pass : ∀ {w}, upper w ∉ keys → ∀ words, read (w :: words) = read words)
    (known : ∀ k ∈ keys, k ∈ attributeWords) {type : TypeText} (valid : type.Valid)
    (words : List Text) : read (type.words ++ words) = read words := by
  apply read_skip pass
  intro w member listed
  exact not_attribute_type valid w member (known _ listed)

theorem attributes_clauses {type : TypeText} (validType : type.Valid) {ws : List Written}
    (valid : ∀ w ∈ ws, w.Valid) (once : (ws.map fun w => w.clause.kind).Nodup) :
    let words := type.words ++ ws.flatMap Written.words
    let clauses := ws.map Written.clause
    readType words = upper type.joined ∧
      isNotNull words = clauses.contains .notNull ∧
      readDefault words = (clauses.findSome? Clause.default?).map [' '].intercalate ∧
      isAutoIncrement words = clauses.contains .autoIncrement ∧
      readCharset words = clauses.findSome? Clause.charset? ∧
      readCollation words = clauses.findSome? Clause.collation? := by
  intro words clauses
  refine ⟨readType_type validType (endsType_clauses valid), ?_, ?_, ?_, ?_, ?_⟩
  · rw [read_after_type isNotNull_cons (by decide) validType, isNotNull_clauses valid]
  · rw [read_after_type readDefault_cons (by decide) validType, readDefault_clauses valid once]
  · rw [read_after_type isAutoIncrement_cons (by decide) validType, isAutoIncrement_clauses valid]
  · rw [read_after_type readCharset_cons (by decide) validType, readCharset_clauses valid]
  · rw [read_after_type readCollation_cons (by decide) validType, readCollation_clauses valid]

/-- A definition with clauses of different kinds, in any order, declares the column that the clauses
describe one by one. -/
theorem readColumn_clauses {identifier : Identifier} (valid : identifier.Valid)
    (names : NamesColumn identifier) {type : TypeText} (validType : type.Valid)
    {ws : List Written} (validClauses : ∀ w ∈ ws, w.Valid)
    (once : (ws.map fun w => w.clause.kind).Nodup) :
    let text := definitionText identifier (type.words ++ ws.flatMap Written.words)
    let clauses := ws.map Written.clause
    readColumn text = some {
      name := identifier.name
      dataType := upper type.joined
      isNullable := !clauses.contains .notNull
      defaultValue := (clauses.findSome? Clause.default?).map [' '].intercalate
      autoIncrement := clauses.contains .autoIncrement
      charset := clauses.findSome? Clause.charset?
      collation := clauses.findSome? Clause.collation?
      definition := text } := by
  intro text clauses
  have someWords : type.words ++ ws.flatMap Written.words ≠ [] := by simp [words_ne_nil]
  have read := readColumn_definitionText valid names someWords
    (tokens_definition validType validClauses)
  obtain ⟨dataType, notNull, default, increment, charset, collation⟩ :=
    attributes_clauses validType validClauses once
  rw [dataType, notNull, default, increment, charset, collation] at read
  exact read

theorem readColumn_clauses_in_comment :
    let identifier := Identifier.quoted '"' "key"
    let type : TypeText := ⟨"int", .apart "10", ["unsigned"]⟩
    let ws : List Written := [
      ⟨.comment "'not null default 7'", ["comment"]⟩, ⟨.collate "utf8mb4_bin", ["Collate"]⟩,
      ⟨.default ["NULL"], ["default"]⟩, ⟨.null, ["null"]⟩, ⟨.charset "utf8mb4", ["CharSet"]⟩]
    let text := definitionText identifier (type.words ++ ws.flatMap Written.words)
    ((identifier.Valid ∧ NamesColumn identifier) ∧ type.Valid ∧ (∀ w ∈ ws, w.Valid) ∧
        (ws.map fun w => w.clause.kind).Nodup) ∧
      text = ("\"key\" int (10) unsigned comment 'not null default 7' Collate utf8mb4_bin"
        ++ " default NULL null CharSet utf8mb4" : Text) ∧
      readColumn text = some {
        name := "key", dataType := "INT(10) UNSIGNED", isNullable := true
        defaultValue := some "NULL", charset := some "utf8mb4", collation := some "utf8mb4_bin"
        definition := text } := by
  intro identifier type ws text
  have hypotheses : (identifier.Valid ∧ NamesColumn identifier) ∧ type.Valid ∧
      (∀ w ∈ ws, w.Valid) ∧ (ws.map fun w => w.clause.kind).Nodup := by decide +kernel
  obtain ⟨⟨valid, names⟩, validType, validClauses, once⟩ := hypotheses
  have read := readColumn_clauses valid names validType validClauses once
  refine ⟨⟨⟨valid, names⟩, validType, validClauses, once⟩, by decide +kernel, read.trans ?_⟩
  decide +kernel

end SchemaDiff.Ddl
