import SchemaDiff.Ddl.Render
import SchemaDiff.Proofs.Column
import SchemaDiff.Proofs.Ddl.ColumnDefinition

/-
Columns as they are written. A rendered column is an identifier and words with single spaces before
them, so that it is read like any other definition.
-/
namespace SchemaDiff.Ddl
open SchemaDiff.Text SchemaDiff.Sql

theorem definitionText_spaced (identifier : Identifier) (words : List Text) :
    definitionText identifier words = identifier.text ++ spaced words :=
  intercalate_cons_spaced _ _

/-- The words that a column's type and default are written in. A type is in capitals, with its
arguments right after its name; no clause can be taken for another one. -/
structure Spelled (c : Column) (type : TypeText) (default : Option (List Text)) : Prop where
  validName : (Identifier.quoted '\x60' c.name).Valid
  validType : type.Valid
  dataType : type.joined = c.dataType
  together : [' '].intercalate type.words = c.dataType
  capital : upper c.dataType = c.dataType
  defaultValue : default.map [' '].intercalate = c.defaultValue
  validDefault : ∀ v ∈ default, (Clause.default v).Valid
  validCharset : ∀ w ∈ c.charset, (Clause.characterSet w).Valid
  validCollation : ∀ w ∈ c.collation, (Clause.collate w).Valid

instance (c : Column) (type : TypeText) (default : Option (List Text)) :
    Decidable (Spelled c type default) :=
  decidable_of_iff (((Identifier.quoted '\x60' c.name).Valid ∧ type.Valid ∧
      type.joined = c.dataType ∧ [' '].intercalate type.words = c.dataType ∧
      upper c.dataType = c.dataType) ∧ default.map [' '].intercalate = c.defaultValue ∧
      (∀ v ∈ default, (Clause.default v).Valid) ∧
      (∀ w ∈ c.charset, (Clause.characterSet w).Valid) ∧
      ∀ w ∈ c.collation, (Clause.collate w).Valid)
    ⟨fun h => ⟨h.1.1, h.1.2.1, h.1.2.2.1, h.1.2.2.2.1, h.1.2.2.2.2, h.2.1, h.2.2.1, h.2.2.2.1,
        h.2.2.2.2⟩,
      fun h => ⟨⟨h.validName, h.validType, h.dataType, h.together, h.capital⟩, h.defaultValue,
        h.validDefault, h.validCharset, h.validCollation⟩⟩

def written (make : Text → Clause) (value : Option Text) : List Written :=
  value.toList.map fun w => ⟨make w, (make w).keywords⟩

def nullability (sayNull : Bool) (c : Column) : List Written :=
  if c.isNullable then (if sayNull then [⟨.null, Clause.null.keywords⟩] else [])
  else [⟨.notNull, Clause.notNull.keywords⟩]

def renderedClauses (sayNull : Bool) (c : Column) (default : Option (List Text)) : List Written :=
  written .characterSet c.charset ++ (written .collate c.collation
    ++ (nullability sayNull c
      ++ (default.toList.map (fun v => ⟨.default v, (Clause.default v).keywords⟩)
        ++ (if c.autoIncrement then [⟨.autoIncrement, Clause.autoIncrement.keywords⟩] else []))))

def renderedWords (sayNull : Bool) (c : Column) (type : TypeText) (default : Option (List Text)) :
    List Text :=
  type.words ++ (renderedClauses sayNull c default).flatMap Written.words

theorem inAnyCase_keywords (clause : Clause) : ∀ k ∈ clause.keywords, InAnyCase k k := by
  cases clause <;> dsimp only [Clause.keywords] <;> decide

theorem spelled_keywords (clause : Clause) :
    List.Forall₂ InAnyCase clause.keywords clause.keywords :=
  List.forall₂_same.mpr (inAnyCase_keywords clause)

section

variable {sayNull : Bool} {c : Column} {type : TypeText} {default : Option (List Text)}

theorem mem_nullability {w : Written} (member : w ∈ nullability sayNull c) :
    w.spelling = w.clause.keywords ∧ (w.clause = .null ∨ w.clause = .notNull) := by
  rw [nullability] at member
  split at member
  · split at member
    · obtain rfl := List.mem_singleton.mp member
      exact ⟨rfl, .inl rfl⟩
    · cases member
  · obtain rfl := List.mem_singleton.mp member
    exact ⟨rfl, .inr rfl⟩

theorem mem_renderedClauses {w : Written} (member : w ∈ renderedClauses sayNull c default) :
    w.spelling = w.clause.keywords ∧
      ((∃ v ∈ c.charset, w.clause = .characterSet v) ∨ (∃ v ∈ c.collation, w.clause = .collate v) ∨
        (w.clause = .null ∨ w.clause = .notNull) ∨ (∃ v ∈ default, w.clause = .default v) ∨
        w.clause = .autoIncrement) := by
  simp only [renderedClauses, written, List.mem_append, List.mem_map, Option.mem_toList] at member
  rcases member with ⟨v, value, rfl⟩ | ⟨v, value, rfl⟩ | null | ⟨v, value, rfl⟩ | increment
  · exact ⟨rfl, .inl ⟨v, value, rfl⟩⟩
  · exact ⟨rfl, .inr (.inl ⟨v, value, rfl⟩)⟩
  · obtain ⟨capitals, clause⟩ := mem_nullability null
    exact ⟨capitals, .inr (.inr (.inl clause))⟩
  · exact ⟨rfl, .inr (.inr (.inr (.inl ⟨v, value, rfl⟩)))⟩
  · split at increment
    · obtain rfl := List.mem_singleton.mp increment
      exact ⟨rfl, .inr (.inr (.inr (.inr rfl)))⟩
    · cases increment

theorem valid_renderedClauses (spelled : Spelled c type default) :
    ∀ w ∈ renderedClauses sayNull c default, w.Valid := by
  intro w member
  obtain ⟨capitals, clause⟩ := mem_renderedClauses member
  refine ⟨?_, by rw [capitals]; exact spelled_keywords w.clause⟩
  rcases clause with ⟨v, value, shape⟩ | ⟨v, value, shape⟩ | null | ⟨v, value, shape⟩ | shape
  · rw [shape]
    exact spelled.validCharset v value
  · rw [shape]
    exact spelled.validCollation v value
  · rcases null with shape | shape
    · rw [shape]
      trivial
    · rw [shape]
      trivial
  · rw [shape]
    exact spelled.validDefault v value
  · rw [shape]
    trivial

theorem once_renderedClauses (sayNull : Bool) (c : Column) (default : Option (List Text)) :
    ((renderedClauses sayNull c default).map fun w => w.clause.kind).Nodup := by
  have charset : ((written .characterSet c.charset).map fun w => w.clause.kind).Sublist
      [.charset] := by cases c.charset <;> simp [written, Clause.kind]
  have collation : ((written .collate c.collation).map fun w => w.clause.kind).Sublist
      [.collation] := by cases c.collation <;> simp [written, Clause.kind]
  have null : ((nullability sayNull c).map fun w => w.clause.kind).Sublist [.nullability] := by
    rw [nullability]
    cases c.isNullable <;> cases sayNull <;> simp [Clause.kind]
  have value : ((default.toList.map fun v => (⟨.default v, (Clause.default v).keywords⟩ :
      Written)).map fun w => w.clause.kind).Sublist [.default] := by
    cases default <;> simp [Clause.kind]
  have increment : ((if c.autoIncrement then [⟨.autoIncrement, Clause.autoIncrement.keywords⟩]
      else [] : List Written).map fun w => w.clause.kind).Sublist [.autoIncrement] := by
    split <;> simp [Clause.kind]
  have kinds : [ClauseKind.charset, .collation, .nullability, .default, .autoIncrement].Nodup := by
    decide
  apply List.Nodup.sublist ?_ kinds
  simp only [renderedClauses, List.map_append]
  exact charset.append (collation.append (null.append (value.append increment)))

theorem spaced_type (spelled : Spelled c type default) : spaced type.words = " " ++ c.dataType := by
  rw [spaced_eq (words_ne_nil type), spelled.together]
  rfl

theorem spaced_charset (value : Option Text) :
    spaced ((written .characterSet value).flatMap Written.words) = clause " CHARACTER SET " value := by
  cases value with
  | none => rfl
  | some v => simp [written, Written.words, Clause.keywords, Clause.operands, spaced, clause, lit]

theorem spaced_collation (value : Option Text) :
    spaced ((written .collate value).flatMap Written.words) = clause " COLLATE " value := by
  cases value with
  | none => rfl
  | some v => simp [written, Written.words, Clause.keywords, Clause.operands, spaced, clause, lit]

theorem spaced_default (spelled : Spelled c type default) :
    spaced ((default.toList.map fun v => (⟨.default v, (Clause.default v).keywords⟩ : Written)).flatMap
      Written.words) = clause " DEFAULT " c.defaultValue := by
  rw [← spelled.defaultValue]
  cases shape : default with
  | none => rfl
  | some v =>
    have solid : v ≠ [] := by
      rintro rfl
      exact (spelled.validDefault [] shape).1
    have words : spaced v = ' ' :: [' '].intercalate v := spaced_eq solid
    simp only [Option.toList_some, List.map_cons, List.map_nil, List.flatMap_cons, List.flatMap_nil,
      List.append_nil, Written.words, Clause.keywords, Clause.operands, spaced_append, words,
      Option.map_some, clause, Option.elim_some]
    rfl

theorem doubled_of_absent {mark : Char} {t : Text} (absent : mark ∉ t) : doubled mark t = t := by
  induction t with
  | nil => rfl
  | cons d rest ih =>
    have other : d ≠ mark := fun same => absent (same ▸ List.mem_cons_self)
    have later := ih fun member => absent (List.mem_cons_of_mem d member)
    rw [doubled, List.flatMap_cons, if_neg other]
    exact congrArg (d :: ·) later

theorem identifier_eq {name : Text} (valid : (Identifier.quoted '\x60' name).Valid) :
    ({} : Style).identifier name = (Identifier.quoted '\x60' name).text := by
  rw [Style.identifier, doubled_of_absent valid.2.2]
  rfl

theorem spaced_nullability (sayNull : Bool) (c : Column) :
    spaced ((nullability sayNull c).flatMap Written.words) =
      if c.isNullable then provided sayNull " NULL" else " NOT NULL" := by
  rw [nullability]
  cases c.isNullable <;> cases sayNull <;> rfl

theorem column_eq (sayNull : Bool) (spelled : Spelled c type default) :
    ({} : Style).column none sayNull c =
      definitionText (.quoted '\x60' c.name) (renderedWords sayNull c type default) := by
  have charset : present c.charset = c.charset :=
    present_of_solid fun w value => (spelled.validCharset w value).1.solid
  have collation : Style.effectiveCollation none c = c.collation := by
    rw [Style.effectiveCollation,
      present_of_solid fun w value => (spelled.validCollation w value).1.solid]
    simp [present]
  have increment : spaced ((if c.autoIncrement then
      [⟨.autoIncrement, Clause.autoIncrement.keywords⟩] else [] : List Written).flatMap
        Written.words) = provided c.autoIncrement " AUTO_INCREMENT" := by
    cases c.autoIncrement <;> rfl
  rw [definitionText_spaced, renderedWords, renderedClauses, spaced_append, spaced_type spelled]
  simp only [List.flatMap_append, spaced_append, spaced_charset, spaced_collation,
    spaced_default spelled, spaced_nullability, increment]
  rw [Style.column, identifier_eq spelled.validName, charset, collation]
  simp [provided]

theorem attributes_rendered (sayNull : Bool) (c : Column) (default : Option (List Text)) :
    let clauses := (renderedClauses sayNull c default).map Written.clause
    clauses.contains .notNull = !c.isNullable ∧ clauses.findSome? Clause.default? = default ∧
      clauses.contains .autoIncrement = c.autoIncrement ∧
      clauses.findSome? Clause.charset? = c.charset ∧
      clauses.findSome? Clause.collation? = c.collation := by
  obtain ⟨_, _, isNullable, _, autoIncrement, charset, collation, _⟩ := c
  cases charset <;> cases collation <;> cases default <;> cases isNullable <;>
    cases autoIncrement <;> cases sayNull <;> exact ⟨rfl, rfl, rfl, rfl, rfl⟩

theorem readColumn_column (sayNull : Bool) (spelled : Spelled c type default) :
    readColumn (({} : Style).column none sayNull c) =
      some { c with definition := ({} : Style).column none sayNull c } := by
  have valid : ∀ w ∈ renderedClauses sayNull c default, w.Valid := valid_renderedClauses spelled
  have someWords : renderedWords sayNull c type default ≠ [] := by
    simp [renderedWords, words_ne_nil]
  have tokens : ∀ w ∈ renderedWords sayNull c type default, Token w :=
    tokens_definition spelled.validType valid
  have read := readColumn_definitionText spelled.validName trivial someWords tokens
  obtain ⟨dataType, notNull, value, increment, charset, collation⟩ :=
    attributes_clauses spelled.validType valid (once_renderedClauses sayNull c default)
  rw [renderedWords] at read
  rw [dataType, notNull, value, increment, charset, collation] at read
  obtain ⟨notNull', value', increment', charset', collation'⟩ :=
    attributes_rendered sayNull c default
  rw [notNull', value', increment', charset', collation', spelled.dataType, spelled.capital,
    spelled.defaultValue, Bool.not_not] at read
  rw [column_eq sayNull spelled, renderedWords, read]
  rfl

end

end SchemaDiff.Ddl
