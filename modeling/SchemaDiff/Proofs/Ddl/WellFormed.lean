import SchemaDiff.Ddl.Dump
import SchemaDiff.Proofs.Column
import SchemaDiff.Proofs.Schema.Merge
import SchemaDiff.Proofs.Text.Blank
import SchemaDiff.Proofs.Text.Case

/-
What holds of every schema that is read from a script, be the script in order or not: no name, type or
value is empty, options are free of blanks and separators, and the text that a column was read from is
read as this column again.
-/
namespace SchemaDiff
open Text Ddl

structure OptionWord (v : Text) : Prop where
  solid : v ≠ []
  inside : ∀ c ∈ v, isBlank c = false ∧ c ≠ ',' ∧ c ≠ ';'

structure Column.WellFormed (c : Column) : Prop where
  name : c.name ≠ []
  dataType : ∃ first ∈ c.dataType.head?, isCapital first
  defaultValue : ∀ v ∈ c.defaultValue, v ≠ []
  charset : ∀ v ∈ c.charset, v ≠ []
  collation : ∀ v ∈ c.collation, v ≠ []
  definition : c.definition ≠ [] ∧ trim c.definition = c.definition
  declares : isConstraint c.definition = false
  reread : readColumn c.definition = some c

structure Table.WellFormed (source : Text) (t : Table) : Prop where
  name : t.name ≠ []
  labelled : t.source = source
  engine : ∀ v ∈ t.engine, OptionWord v
  charset : ∀ v ∈ t.charset, OptionWord v
  collation : ∀ v ∈ t.collation, OptionWord v
  columns : ∀ c ∈ t.columns, c.WellFormed

namespace Schema

theorem mem_put {key : Text} {table : Table} {entries : List (Text × Table)} {entry : Text × Table}
    (member : entry ∈ put key table entries) : entry = (key, table) ∨ entry ∈ entries := by
  induction entries with
  | nil => simpa [put] using member
  | cons first rest ih =>
    rw [put] at member
    split at member
    · rename_i same
      rcases List.mem_cons.mp member with here | later
      · exact .inl (here.trans (same ▸ rfl))
      · exact .inr (List.mem_cons_of_mem _ later)
    · rcases List.mem_cons.mp member with here | later
      · exact .inr (here ▸ List.mem_cons_self)
      · exact (ih later).imp_right (List.mem_cons_of_mem _)

theorem mem_entries_ofEntries {source : Text} {entries : List (Text × Table)} {entry : Text × Table}
    (member : entry ∈ (ofEntries source entries).entries) : entry ∈ entries := by
  induction entries using List.reverseRecOn with
  | nil => exact member
  | append_singleton others last ih =>
    rw [entries_concat] at member
    rw [List.mem_append, List.mem_singleton]
    rcases mem_put member with here | earlier
    · exact .inr here
    · exact .inl (ih earlier)

theorem mem_entries_ofTables {source : Text} {tables : List Table} {entry : Text × Table}
    (member : entry ∈ (ofTables source tables).entries) : entry.1 = entry.2.name ∧ entry.2 ∈ tables := by
  obtain ⟨t, listed, rfl⟩ := List.mem_map.mp (mem_entries_ofEntries member)
  exact ⟨rfl, listed⟩

end Schema

namespace Ddl
open Text.Pattern

theorem ne_nil_of_readIdentifier {t name after : Text} (read : readIdentifier t = some (name, after)) :
    name ≠ [] := by
  cases t with
  | nil => cases read
  | cons c rest =>
    rw [readIdentifier] at read
    split at read
    · rw [readQuoted] at read
      split at read
      · cases read
        exact List.cons_ne_nil _ _
      · cases read
    · split at read
      · rename_i word
        cases read
        simp [word]
      · cases read

theorem ne_nil_of_readTableName {statement name after : Text}
    (read : readTableName statement = some (name, after)) : name ≠ [] := by
  rw [readTableName] at read
  split at read
  · cases read
  · rename_i n taken
    rcases Option.or_eq_some_iff.mp read with guarded | ⟨_, bare⟩
    · obtain ⟨m, _, named⟩ := Option.bind_eq_some_iff.mp guarded
      exact ne_nil_of_readIdentifier named
    · exact ne_nil_of_readIdentifier bare

theorem optionWord_of_here {option : Pattern} {t v : Text} (found : optionValueHere option t = some v) :
    OptionWord v := by
  rw [optionValueHere] at found
  split at found
  · cases found
  · split at found
    · cases found
    · rename_i solid
      cases found
      refine ⟨solid, fun c member => ?_⟩
      have inside : inOptionValue c := List.mem_takeWhile_imp member
      simpa [inOptionValue, and_assoc] using inside

theorem optionWord_of_after {option : Pattern} {previous : Option Char} {t v : Text}
    (found : optionValueAfter option previous t = some v) : OptionWord v := by
  induction t generalizing previous with
  | nil => cases found
  | cons c rest ih =>
    rw [optionValueAfter] at found
    rcases Option.or_eq_some_iff.mp found with here | ⟨_, later⟩
    · split at here
      · cases here
      · exact optionWord_of_here here
    · exact ih later

theorem ne_nil_of_mem_definitionWords {t w : Text} (member : w ∈ Sql.definitionWords t) : w ≠ [] := by
  simpa using (List.mem_filter.mp member).2

theorem capital_of_plainLetter_code : ∀ n < 128, isPlainLetter (Char.ofNat n) →
    upperChar (Char.ofNat n) = [(Char.ofNat n).toUpper] ∧ isCapital (Char.ofNat n).toUpper := by
  decide +kernel

theorem ascii_of_isPlainLetter {c : Char} (letter : isPlainLetter c) : c.toNat < 128 := by
  unfold isPlainLetter Char.isAlpha Char.isUpper Char.isLower at letter
  simp only [Bool.or_eq_true, Bool.and_eq_true, decide_eq_true_eq, beq_iff_eq] at letter
  rcases letter with (⟨_, last⟩ | ⟨_, last⟩) | rfl
  · exact Nat.lt_of_le_of_lt last (by decide)
  · exact Nat.lt_of_le_of_lt last (by decide)
  · decide

theorem capital_of_plainLetter {c : Char} (letter : isPlainLetter c) :
    upperChar c = [c.toUpper] ∧ isCapital c.toUpper := by
  have image := capital_of_plainLetter_code c.toNat (ascii_of_isPlainLetter letter)
  rw [Char.ofNat_toNat] at image
  exact image letter

theorem capital_upper {c : Char} (letter : isPlainLetter c) (rest : Text) :
    ∃ first ∈ (upper (c :: rest)).head?, isCapital first := by
  obtain ⟨image, capital⟩ := capital_of_plainLetter letter
  exact ⟨c.toUpper, by simp [upper_cons, image], capital⟩

theorem capital_fallbackType : ∃ first ∈ fallbackType.head?, isCapital first := by decide

theorem capital_bareType (word : Text) : ∃ first ∈ (bareType word).head?, isCapital first := by
  cases word with
  | nil => exact capital_fallbackType
  | cons c rest =>
    rw [bareType]
    split
    · rename_i letter
      exact capital_upper letter _
    · exact capital_fallbackType

theorem capital_typeWith {c : Char} (letter : isPlainLetter c) (rest : Text) (words : List Text) :
    ∃ first ∈ (typeWith (c :: rest) words).head?, isCapital first := by
  rw [typeWith]
  cases words.takeWhile fun w => typeModifiers.contains (upper w) with
  | nil => exact capital_upper letter _
  | cons w others => exact capital_upper letter _

theorem splitType_front {word name : Text} {args : Option Text} (split : splitType word = some (name, args)) :
    ∃ c rest, name = c :: rest ∧ isPlainLetter c := by
  cases word with
  | nil => cases split
  | cons c rest =>
    simp only [splitType, Option.ite_none_right_eq_some] at split
    obtain ⟨letter, cases⟩ := split
    refine ⟨c, rest.takeWhile isWord, ?_, letter⟩
    split at cases
    · cases cases
      rfl
    · split at cases
      · cases cases
        rfl
      · cases cases

theorem capital_readType (words : List Text) : ∃ first ∈ (readType words).head?, isCapital first := by
  cases words with
  | nil => exact capital_fallbackType
  | cons word words =>
    rw [readType.eq_def]
    dsimp only
    split
    · exact capital_bareType word
    · rename_i name args others known
      obtain ⟨c, rest, rfl, letter⟩ := splitType_front known
      split
      · exact capital_typeWith letter _ _
      · exact capital_typeWith letter _ _
    · rename_i name args known _
      obtain ⟨c, rest, rfl, letter⟩ := splitType_front known
      exact capital_typeWith letter _ _

theorem ne_nil_of_intercalate {separator : Text} {pieces : List Text} (someSolid : pieces ≠ [])
    (all : ∀ p ∈ pieces, p ≠ []) : separator.intercalate pieces ≠ [] := by
  cases pieces with
  | nil => contradiction
  | cons p others =>
    have first := all p List.mem_cons_self
    cases others with
    | nil => rwa [List.intercalate_singleton]
    | cons q others => simp [List.intercalate_cons_cons, first]

section

variable {words : List Text} (solid : ∀ w ∈ words, w ≠ [])

include solid

theorem ne_nil_of_readDefault {v : Text} (read : readDefault words = some v) : v ≠ [] := by
  rw [readDefault] at read
  split at read
  · cases read
  · rename_i keyword after shape
    have afterSolid : ∀ w ∈ after, w ≠ [] := by
      intro w member
      have listed : w ∈ words.dropWhile (upper · ≠ "DEFAULT") := shape ▸ List.mem_cons_of_mem _ member
      exact solid w ((List.dropWhile_sublist _).subset listed)
    have kept : defaultWords after ⊆ after := by
      rw [defaultWords.eq_def]
      cases after with
      | nil => exact List.Subset.refl _
      | cons first others =>
        dsimp only
        split
        · exact List.cons_subset_cons first (List.takeWhile_sublist _).subset
        · exact List.nil_subset _
    split at read
    · cases read
    · rename_i value some
      cases read
      exact ne_nil_of_intercalate some fun w member => afterSolid w (kept member)

theorem ne_nil_of_readCharset {v : Text} (read : readCharset words = some v) : v ≠ [] := by
  fun_induction readCharset words with
  | case1 => cases read
  | case2 => cases read
  | case3 word value keyword =>
    cases read
    exact solid _ (by simp)
  | case4 => cases read
  | case5 word next value others keywords =>
    cases read
    exact solid _ (by simp)
  | case6 word next value others noSet keyword =>
    cases read
    exact solid _ (by simp)
  | case7 word next value others noSet noKeyword ih =>
    exact ih (fun w member => solid w (List.mem_cons_of_mem _ member)) read

theorem ne_nil_of_readCollation {v : Text} (read : readCollation words = some v) : v ≠ [] := by
  fun_induction readCollation words with
  | case1 word next others keyword =>
    cases read
    exact solid _ (by simp)
  | case2 word next others noKeyword ih =>
    exact ih (fun w member => solid w (List.mem_cons_of_mem _ member)) read
  | case3 => cases read

end

theorem readColumn_trim (t : Text) : readColumn (trim t) = readColumn t := by
  have trimmed : trim (trim t) = trim t := trim_eq_self_iff.mpr (dark_trim t)
  rw [readColumn, readColumn, trimmed]

theorem wellFormed_readColumn {t : Text} {c : Column} (read : readColumn t = some c) : c.WellFormed := by
  have again : readColumn (trim t) = some c := (readColumn_trim t).trans read
  rw [readColumn] at read
  split at read
  · cases read
  · rename_i declares
    split at read
    · cases read
    · rename_i name after known
      cases read
      have words : ∀ w ∈ Sql.definitionWords after, w ≠ [] := fun w => ne_nil_of_mem_definitionWords
      have solid : trim t ≠ [] := by
        intro empty
        rw [empty] at known
        cases known
      exact {
        name := ne_nil_of_readIdentifier known
        dataType := capital_readType _
        defaultValue := fun v found => ne_nil_of_readDefault words found
        charset := fun v found => ne_nil_of_readCharset words found
        collation := fun v found => ne_nil_of_readCollation words found
        definition := ⟨solid, trim_eq_self_iff.mpr (dark_trim t)⟩
        declares := by simpa using declares
        reread := again }

theorem ne_nil_of_readTableParts {statement : Text} {parts : TableParts}
    (read : readTableParts statement = some parts) : parts.name ≠ [] := by
  simp only [readTableParts, Option.bind_eq_bind, Option.bind_eq_some_iff] at read
  obtain ⟨⟨name, after⟩, named, offset, _, finish, _, body⟩ := read
  split at body
  · cases body
  · cases body
    exact ne_nil_of_readTableName named

theorem wellFormed_readTable {source statement : Text} {t : Table}
    (read : readTable source statement = some t) : t.WellFormed source := by
  obtain ⟨parts, cut, rfl⟩ := Option.map_eq_some_iff.mp read
  exact {
    name := ne_nil_of_readTableParts cut
    labelled := rfl
    engine := fun v found => optionWord_of_after found
    charset := fun v found => optionWord_of_after found
    collation := fun v found => optionWord_of_after found
    columns := fun c member => by
      obtain ⟨fragment, _, declared⟩ := List.mem_filterMap.mp member
      exact wellFormed_readColumn declared }

/-- A schema that was read keeps its tables under their own names, and they and their columns are in
order; so what is written of them leaves out nothing but what is absent. -/
theorem wellFormed_readSchema (lexer : Sql.Lexer) (label script : Text) :
    (∀ entry ∈ (readSchema lexer label script).entries, entry.1 = entry.2.name) ∧
      ∀ t ∈ (readSchema lexer label script).tables, t.WellFormed label ∧
        present t.engine = t.engine ∧ present t.charset = t.charset ∧
        present t.collation = t.collation ∧
        ∀ c ∈ t.columns, present c.charset = c.charset ∧ present c.collation = c.collation ∧
          present (some c.name) = some c.name := by
  refine ⟨fun entry member => (Schema.mem_entries_ofTables member).1, fun t member => ?_⟩
  obtain ⟨entry, listed, rfl⟩ := List.mem_map.mp member
  obtain ⟨statement, _, read⟩ := List.mem_filterMap.mp (Schema.mem_entries_ofTables listed).2
  have table := wellFormed_readTable read
  refine ⟨table, ?_, ?_, ?_, fun c inside => ?_⟩
  · exact present_of_solid fun v given => (table.engine v given).solid
  · exact present_of_solid fun v given => (table.charset v given).solid
  · exact present_of_solid fun v given => (table.collation v given).solid
  · have column := table.columns c inside
    refine ⟨present_of_solid column.charset, present_of_solid column.collation, ?_⟩
    apply present_of_solid
    rintro _ ⟨⟩
    exact column.name

end Ddl

end SchemaDiff
