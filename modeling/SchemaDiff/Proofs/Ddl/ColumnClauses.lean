import Mathlib.Data.List.Nodup
import SchemaDiff.Proofs.Ddl.ColumnType

/-
Definitions of columns as a grammar has them: an identifier, a type and clauses in any order. The
attributes are looked for one by one in the same list of words, each on its own; none of them takes a
word that belongs to another clause.
-/
namespace SchemaDiff.Ddl
open SchemaDiff.Text SchemaDiff.Text.Pattern SchemaDiff.Sql

inductive Clause where
  | notNull
  | null
  | default (value : List Text)
  | autoIncrement
  | characterSet (value : Text)
  | charset (value : Text)
  | collate (value : Text)
  | comment (literal : Text)
  | primaryKey
  | unique
  | check (inside : Text)
deriving DecidableEq, Repr

inductive ClauseKind where
  | nullability | default | autoIncrement | charset | collation | comment | primaryKey | unique | check
deriving DecidableEq, Repr

namespace Clause

def kind : Clause → ClauseKind
  | notNull | null => .nullability
  | default _ => .default
  | autoIncrement => .autoIncrement
  | characterSet _ | charset _ => .charset
  | collate _ => .collation
  | comment _ => .comment
  | primaryKey => .primaryKey
  | unique => .unique
  | check _ => .check

def keywords : Clause → List Text
  | notNull => ["NOT", "NULL"]
  | null => ["NULL"]
  | default _ => ["DEFAULT"]
  | autoIncrement => ["AUTO_INCREMENT"]
  | characterSet _ => ["CHARACTER", "SET"]
  | charset _ => ["CHARSET"]
  | collate _ => ["COLLATE"]
  | comment _ => ["COMMENT"]
  | primaryKey => ["PRIMARY", "KEY"]
  | unique => ["UNIQUE"]
  | check _ => ["CHECK"]

def operands : Clause → List Text
  | default value => value
  | characterSet value | charset value | collate value => [value]
  | comment literal => [literal]
  | check inside => [group inside]
  | notNull | null | autoIncrement | primaryKey | unique => []

/-- The tokens of a default: none of them ends it, a leading `NULL` apart. -/
def IsDefault : List Text → Prop
  | [] => False
  | first :: others =>
    (upper first = "NULL" ∨ upper first ∉ defaultEnds) ∧ ∀ w ∈ others, upper w ∉ defaultEnds

def Valid : Clause → Prop
  | default value => IsDefault value ∧ ∀ w ∈ value, Token w
  | characterSet value | charset value | collate value => Token value ∧ upper value ∉ attributeWords
  | comment literal => Token literal ∧ ∃ q ∈ literal.head?, isQuote q
  | check inside => Nested inside
  | notNull | null | autoIncrement | primaryKey | unique => True

instance : DecidablePred IsDefault
  | [] => inferInstanceAs (Decidable False)
  | _ :: _ => inferInstanceAs (Decidable (_ ∧ _))

instance : DecidablePred Valid
  | default _ | characterSet _ | charset _ | collate _ | comment _ =>
    inferInstanceAs (Decidable (_ ∧ _))
  | check inside => inferInstanceAs (Decidable (Nested inside))
  | notNull | null | autoIncrement | primaryKey | unique => inferInstanceAs (Decidable True)

end Clause

/-- A clause and the spelling of its keywords. -/
structure Written where
  clause : Clause
  spelling : List Text
deriving DecidableEq, Repr

namespace Written

def words (w : Written) : List Text := w.spelling ++ w.clause.operands

structure Valid (w : Written) : Prop where
  clause : w.clause.Valid
  spelled : List.Forall₂ InAnyCase w.spelling w.clause.keywords

instance : DecidablePred Valid := fun w =>
  decidable_of_iff (w.clause.Valid ∧ List.Forall₂ InAnyCase w.spelling w.clause.keywords)
    ⟨fun h => ⟨h.1, h.2⟩, fun h => ⟨h.clause, h.spelled⟩⟩

end Written

theorem isCapital_keywords (clause : Clause) : ∀ k ∈ clause.keywords, ∀ c ∈ k, isCapital c := by
  cases clause <;> dsimp only [Clause.keywords] <;> decide

theorem spelled_of_mem {spelling keywords : List Text}
    (spelled : List.Forall₂ InAnyCase spelling keywords) {x : Text} (member : x ∈ spelling) :
    ∃ k ∈ keywords, InAnyCase x k := by
  induction spelled with
  | nil => simp at member
  | cons first others ih =>
    rcases List.mem_cons.mp member with rfl | member
    · exact ⟨_, List.mem_cons_self, first⟩
    · obtain ⟨k, listed, same⟩ := ih member
      exact ⟨k, List.mem_cons_of_mem _ listed, same⟩

theorem upper_of_mem_spelling {w : Written} (valid : w.Valid) {x : Text} (member : x ∈ w.spelling) :
    upper x ∈ w.clause.keywords := by
  obtain ⟨k, listed, same⟩ := spelled_of_mem valid.spelled member
  rw [upper_of_inAnyCase same (isCapital_keywords _ k listed)]
  exact listed

theorem token_of_mem_spelling {w : Written} (valid : w.Valid) {x : Text} (member : x ∈ w.spelling) :
    Token x := by
  obtain ⟨k, listed, same⟩ := spelled_of_mem valid.spelled member
  have solid : x ≠ [] := by
    rintro rfl
    have empty : k = [] := same.symm
    subst empty
    have none : [] ∉ w.clause.keywords := by
      cases w.clause <;> dsimp only [Clause.keywords] <;> decide
    exact none listed
  exact token_word solid (isWord_of_inAnyCase same (isCapital_keywords _ k listed))

theorem tokens_clause {w : Written} (valid : w.Valid) : ∀ x ∈ w.words, Token x := by
  intro x member
  rcases List.mem_append.mp member with spelled | operand
  · exact token_of_mem_spelling valid spelled
  · have clause := valid.clause
    cases shape : w.clause with
    | default value =>
      rw [shape] at clause operand
      exact clause.2 x operand
    | characterSet value | charset value | collate value | comment value =>
      rw [shape] at clause operand
      obtain rfl := List.mem_singleton.mp operand
      exact clause.1
    | check inside =>
      rw [shape] at clause operand
      obtain rfl := List.mem_singleton.mp operand
      exact token_group clause
    | notNull | null | autoIncrement | primaryKey | unique =>
      rw [shape] at operand
      simp [Clause.operands] at operand

theorem attributeWords_end : ∀ k ∈ attributeWords, k ≠ "DEFAULT" → k ∈ defaultEnds := by decide

theorem upper_default_token {value : List Text} (isDefault : Clause.IsDefault value) {x : Text}
    (member : x ∈ value) : upper x = "NULL" ∨ upper x ∉ defaultEnds := by
  cases value with
  | nil => exact isDefault.elim
  | cons first others =>
    rcases List.mem_cons.mp member with rfl | later
    · exact isDefault.1
    · exact .inr (isDefault.2 x later)

theorem attribute_of_mem_words {w : Written} (valid : w.Valid) {x : Text} (member : x ∈ w.words)
    (known : upper x ∈ attributeWords) : upper x ∈ w.clause.keywords := by
  rcases List.mem_append.mp member with spelled | operand
  · exact upper_of_mem_spelling valid spelled
  · have clause := valid.clause
    cases shape : w.clause with
    | default value =>
      rw [shape] at clause operand
      by_cases same : upper x = "DEFAULT"
      · rw [same]
        exact List.mem_singleton_self _
      · have ends := attributeWords_end _ known same
        rcases upper_default_token clause.1 operand with isNull | free
        · rw [isNull] at known
          exact absurd known (by decide)
        · exact absurd ends free
    | characterSet value | charset value | collate value =>
      rw [shape] at clause operand
      obtain rfl := List.mem_singleton.mp operand
      exact absurd known clause.2
    | comment literal =>
      rw [shape] at clause operand
      obtain rfl := List.mem_singleton.mp operand
      obtain ⟨q, front, quote⟩ := clause.2
      have inside : q ∈ x := List.mem_of_mem_head? front
      have image : upperChar q = [q] ∧ isCapital q = false := by
        simp only [isQuote, Bool.or_eq_true, beq_iff_eq] at quote
        rcases quote with (rfl | rfl) | rfl <;> decide
      exact absurd known (not_attribute_of_mem inside image.1 image.2)
    | check inside =>
      rw [shape] at operand
      obtain rfl := List.mem_singleton.mp operand
      exact absurd known (not_attribute_group [] inside)
    | notNull | null | autoIncrement | primaryKey | unique =>
      rw [shape] at operand
      simp [Clause.operands] at operand

theorem first_word {w : Written} (valid : w.Valid) :
    ∃ first others k, w.words = first :: others ∧ k ∈ w.clause.keywords.head? ∧ InAnyCase first k := by
  have some : ∃ k ks, w.clause.keywords = k :: ks := by
    cases w.clause <;> exact ⟨_, _, rfl⟩
  obtain ⟨k, ks, shape⟩ := some
  have spelled := valid.spelled
  rw [shape] at spelled
  cases front : w.spelling with
  | nil => rw [front] at spelled; cases spelled
  | cons first others =>
    rw [front] at spelled
    cases spelled with
    | cons same later =>
      refine ⟨first, others ++ w.clause.operands, k, ?_, by rw [shape]; rfl, same⟩
      rw [Written.words, front, List.cons_append]

theorem readCharset_cons {word : Text} (other : upper word ∉ [lit "CHARACTER", lit "CHARSET"])
    (words : List Text) : readCharset (word :: words) = readCharset words := by
  obtain ⟨noCharacter, noCharset⟩ : upper word ≠ "CHARACTER" ∧ upper word ≠ "CHARSET" := by
    simpa using other
  rcases words with _ | ⟨next, _ | ⟨value, others⟩⟩
  · rfl
  · simp [readCharset, noCharset]
  · simp [readCharset, noCharacter, noCharset]

theorem readCollation_cons {word : Text} (other : upper word ∉ [lit "COLLATE"])
    (words : List Text) : readCollation (word :: words) = readCollation words := by
  have noCollate : upper word ≠ "COLLATE" := by simpa using other
  cases words with
  | nil => rfl
  | cons next others => simp [readCollation, noCollate]

theorem isNotNull_cons {word : Text} (other : upper word ∉ [lit "NOT"]) (words : List Text) :
    isNotNull (word :: words) = isNotNull words := by
  have noNot : upper word ≠ "NOT" := by simpa using other
  cases words with
  | nil => rfl
  | cons next others => simp [isNotNull, noNot]

theorem readDefault_cons {word : Text} (other : upper word ∉ [lit "DEFAULT"]) (words : List Text) :
    readDefault (word :: words) = readDefault words := by
  have noDefault : upper word ≠ "DEFAULT" := by simpa using other
  simp [readDefault, noDefault]

theorem isAutoIncrement_cons {word : Text} (other : upper word ∉ [lit "AUTO_INCREMENT"])
    (words : List Text) : isAutoIncrement (word :: words) = isAutoIncrement words := by
  have noIncrement : upper word ≠ "AUTO_INCREMENT" := by simpa using other
  simp [isAutoIncrement, noIncrement]

theorem read_skip {β : Type} {read : List Text → β} {keys : List Text}
    (pass : ∀ {w}, upper w ∉ keys → ∀ words, read (w :: words) = read words) {front : List Text}
    (absent : ∀ w ∈ front, upper w ∉ keys) (words : List Text) :
    read (front ++ words) = read words := by
  induction front with
  | nil => rfl
  | cons w others ih =>
    rw [List.cons_append, pass (absent w List.mem_cons_self)]
    exact ih fun x member => absent x (List.mem_cons_of_mem w member)

theorem absent_keys {w : Written} (valid : w.Valid) {keys : List Text}
    (known : ∀ k ∈ keys, k ∈ attributeWords) (foreign : ∀ k ∈ keys, k ∉ w.clause.keywords) :
    ∀ x ∈ w.words, upper x ∉ keys := by
  intro x member listed
  exact foreign _ listed (attribute_of_mem_words valid member (known _ listed))

theorem words_one {w : Written} (valid : w.Valid) {k : Text} (shape : w.clause.keywords = [k]) :
    ∃ first, w.words = first :: w.clause.operands ∧ upper first = k := by
  have spelled := valid.spelled
  have capitals := isCapital_keywords w.clause
  rw [shape] at spelled capitals
  cases form : w.spelling with
  | nil => rw [form] at spelled; cases spelled
  | cons first others =>
    rw [form] at spelled
    obtain _ | ⟨same, _ | _⟩ := spelled
    refine ⟨first, by rw [Written.words, form]; rfl, ?_⟩
    exact upper_of_inAnyCase same (capitals k List.mem_cons_self)

theorem words_two {w : Written} (valid : w.Valid) {k l : Text} (shape : w.clause.keywords = [k, l]) :
    ∃ first second, w.words = first :: second :: w.clause.operands ∧ upper first = k ∧
      upper second = l := by
  have spelled := valid.spelled
  have capitals := isCapital_keywords w.clause
  rw [shape] at spelled capitals
  rcases form : w.spelling with _ | ⟨first, _ | ⟨second, others⟩⟩
  · rw [form] at spelled; cases spelled
  · rw [form] at spelled; obtain _ | ⟨_, _ | _⟩ := spelled
  · rw [form] at spelled
    obtain _ | ⟨same, _ | ⟨next, _ | _⟩⟩ := spelled
    refine ⟨first, second, by rw [Written.words, form]; rfl, ?_, ?_⟩
    · exact upper_of_inAnyCase same (capitals k List.mem_cons_self)
    · exact upper_of_inAnyCase next (capitals l (by simp))

namespace Clause

def default? : Clause → Option (List Text)
  | default value => some value
  | _ => none

def charset? : Clause → Option Text
  | characterSet value | charset value => some value
  | _ => none

def collation? : Clause → Option Text
  | collate value => some value
  | _ => none

end Clause

theorem readCharset_clauses {ws : List Written} (valid : ∀ w ∈ ws, w.Valid) :
    readCharset (ws.flatMap Written.words) = (ws.map Written.clause).findSome? Clause.charset? := by
  induction ws with
  | nil => rfl
  | cons w others ih =>
    have first := valid w List.mem_cons_self
    have later := ih fun x member => valid x (List.mem_cons_of_mem w member)
    rw [List.flatMap_cons, List.map_cons]
    cases shape : w.clause with
    | characterSet value =>
      obtain ⟨a, b, form, character, set⟩ := words_two first (k := "CHARACTER") (l := "SET")
        (by rw [shape]; rfl)
      rw [form, shape, List.findSome?_cons]
      simp [readCharset, character, set, Clause.operands, Clause.charset?]
    | charset value =>
      obtain ⟨a, form, charset⟩ := words_one first (k := "CHARSET") (by rw [shape]; rfl)
      have other : lit "CHARSET" ≠ "CHARACTER" := by decide
      rw [form, shape, List.findSome?_cons]
      cases others.flatMap Written.words <;>
        simp [readCharset, charset, other, Clause.operands, Clause.charset?]
    | notNull | null | default _ | autoIncrement | collate _ | comment _ | primaryKey | unique | check _ =>
      have absent : ∀ x ∈ w.words, upper x ∉ [lit "CHARACTER", lit "CHARSET"] :=
        absent_keys first (by decide) (by rw [shape]; dsimp only [Clause.keywords]; decide)
      rw [read_skip readCharset_cons absent, later]
      rfl

theorem readCollation_clauses {ws : List Written} (valid : ∀ w ∈ ws, w.Valid) :
    readCollation (ws.flatMap Written.words) =
      (ws.map Written.clause).findSome? Clause.collation? := by
  induction ws with
  | nil => rfl
  | cons w others ih =>
    have first := valid w List.mem_cons_self
    have later := ih fun x member => valid x (List.mem_cons_of_mem w member)
    rw [List.flatMap_cons, List.map_cons]
    cases shape : w.clause with
    | collate value =>
      obtain ⟨a, form, collate⟩ := words_one first (k := "COLLATE") (by rw [shape]; rfl)
      rw [form, shape, List.findSome?_cons]
      simp [readCollation, collate, Clause.operands, Clause.collation?]
    | notNull | null | default _ | autoIncrement | characterSet _ | charset _ | comment _ | primaryKey
      | unique | check _ =>
      have absent : ∀ x ∈ w.words, upper x ∉ [lit "COLLATE"] :=
        absent_keys first (by decide) (by rw [shape]; dsimp only [Clause.keywords]; decide)
      rw [read_skip readCollation_cons absent, later]
      rfl

theorem isNotNull_clauses {ws : List Written} (valid : ∀ w ∈ ws, w.Valid) :
    isNotNull (ws.flatMap Written.words) = (ws.map Written.clause).contains .notNull := by
  induction ws with
  | nil => rfl
  | cons w others ih =>
    have first := valid w List.mem_cons_self
    have later := ih fun x member => valid x (List.mem_cons_of_mem w member)
    rw [List.flatMap_cons, List.map_cons]
    cases shape : w.clause with
    | notNull =>
      obtain ⟨a, b, form, negation, null⟩ := words_two first (k := "NOT") (l := "NULL")
        (by rw [shape]; rfl)
      rw [form]
      simp [isNotNull, negation, null]
    | null | default _ | autoIncrement | characterSet _ | charset _ | collate _ | comment _ | primaryKey
      | unique | check _ =>
      have absent : ∀ x ∈ w.words, upper x ∉ [lit "NOT"] :=
        absent_keys first (by decide) (by rw [shape]; dsimp only [Clause.keywords]; decide)
      rw [read_skip isNotNull_cons absent, later]
      simp

theorem isAutoIncrement_clauses {ws : List Written} (valid : ∀ w ∈ ws, w.Valid) :
    isAutoIncrement (ws.flatMap Written.words) =
      (ws.map Written.clause).contains .autoIncrement := by
  induction ws with
  | nil => rfl
  | cons w others ih =>
    have first := valid w List.mem_cons_self
    have later := ih fun x member => valid x (List.mem_cons_of_mem w member)
    rw [List.flatMap_cons, List.map_cons]
    cases shape : w.clause with
    | autoIncrement =>
      obtain ⟨a, form, keyword⟩ := words_one first (k := "AUTO_INCREMENT") (by rw [shape]; rfl)
      rw [form]
      simp [isAutoIncrement, keyword]
    | notNull | null | default _ | characterSet _ | charset _ | collate _ | comment _ | primaryKey
      | unique | check _ =>
      have absent : ∀ x ∈ w.words, upper x ∉ [lit "AUTO_INCREMENT"] :=
        absent_keys first (by decide) (by rw [shape]; dsimp only [Clause.keywords]; decide)
      rw [read_skip isAutoIncrement_cons absent, later]
      simp

def EndsDefault (rest : List Text) : Prop := ∀ x ∈ rest.head?, upper x ∈ defaultEnds

theorem defaultWords_value {value : List Text} (isDefault : Clause.IsDefault value)
    {rest : List Text} (ends : EndsDefault rest) : defaultWords (value ++ rest) = value := by
  cases value with
  | nil => exact isDefault.elim
  | cons first others =>
    have stops : ∀ x ∈ rest.head?, decide (¬defaultEnds.contains (upper x)) = false := by
      intro x front
      simpa using ends x front
    have all : ∀ x ∈ others, decide (¬defaultEnds.contains (upper x)) := by
      intro x member
      simpa using isDefault.2 x member
    have starts : upper first = "NULL" ∨ ¬defaultEnds.contains (upper first) := by
      simpa using isDefault.1
    rw [List.cons_append, defaultWords]
    simp only [starts, ↓reduceIte, takeWhile_append_stop all stops]

theorem readDefault_value {word : Text} (keyword : upper word = "DEFAULT") {value : List Text}
    (isDefault : Clause.IsDefault value) {rest : List Text} (ends : EndsDefault rest) :
    readDefault (word :: (value ++ rest)) = some ([' '].intercalate value) := by
  have found : (word :: (value ++ rest)).dropWhile (upper · ≠ "DEFAULT") =
      word :: (value ++ rest) := by simp [keyword]
  rw [readDefault, found]
  dsimp only
  rw [defaultWords_value isDefault ends]
  cases value with
  | nil => exact isDefault.elim
  | cons first others => rfl

theorem ends_default {ws : List Written} (valid : ∀ w ∈ ws, w.Valid)
    (noDefault : ∀ w ∈ ws, w.clause.kind ≠ .default) :
    EndsDefault (ws.flatMap Written.words) := by
  cases ws with
  | nil => simp [EndsDefault]
  | cons w others =>
    obtain ⟨first, more, k, form, front, spelled⟩ := first_word (valid w List.mem_cons_self)
    have listed := List.mem_of_mem_head? front
    have known : k ∈ defaultEnds := by
      have other := noDefault w List.mem_cons_self
      revert front other
      cases w.clause <;> simp [Clause.keywords, Clause.kind] <;> rintro rfl <;> decide
    intro x head
    rw [List.flatMap_cons, form] at head
    cases head
    rw [upper_of_inAnyCase spelled (isCapital_keywords _ k listed)]
    exact known

theorem readDefault_clauses {ws : List Written} (valid : ∀ w ∈ ws, w.Valid)
    (once : (ws.map fun w => w.clause.kind).Nodup) :
    readDefault (ws.flatMap Written.words) =
      ((ws.map Written.clause).findSome? Clause.default?).map [' '].intercalate := by
  induction ws with
  | nil => rfl
  | cons w others ih =>
    have first := valid w List.mem_cons_self
    have validLater : ∀ x ∈ others, x.Valid := fun x member =>
      valid x (List.mem_cons_of_mem w member)
    rw [List.map_cons, List.nodup_cons] at once
    have later := ih validLater once.2
    rw [List.flatMap_cons, List.map_cons]
    cases shape : w.clause with
    | default value =>
      obtain ⟨a, form, keyword⟩ := words_one first (k := "DEFAULT") (by rw [shape]; rfl)
      have isDefault : Clause.IsDefault value := by
        have clause := first.clause
        rw [shape] at clause
        exact clause.1
      have noOther : ∀ x ∈ others, x.clause.kind ≠ .default := by
        intro x member same
        apply once.1
        rw [shape]
        exact List.mem_map.mpr ⟨x, member, same⟩
      rw [form, shape, List.findSome?_cons]
      exact readDefault_value keyword isDefault (ends_default validLater noOther)
    | notNull | null | autoIncrement | characterSet _ | charset _ | collate _ | comment _ | primaryKey
      | unique | check _ =>
      have absent : ∀ x ∈ w.words, upper x ∉ [lit "DEFAULT"] :=
        absent_keys first (by decide) (by rw [shape]; dsimp only [Clause.keywords]; decide)
      rw [read_skip readDefault_cons absent, later]
      rfl

end SchemaDiff.Ddl
