import SchemaDiff.Proofs.Ddl.DefinitionWords
import SchemaDiff.Proofs.Sql.Statements

/-
Definitions in any layout: an identifier, and whatever text comes after it. The words of that text decide
about the column, and blanks at its end do not count. A bare name is no column's if it begins a key or a
constraint, be it alone or together with the word after it.
-/
namespace SchemaDiff.Ddl
open SchemaDiff.Text SchemaDiff.Text.Pattern SchemaDiff.Sql

def nextWord (t : Text) : Text := (trimStart t).takeWhile isWord

/-- A bare name begins no key or constraint, be it alone or with the word after it. -/
def DeclaresColumn (identifier : Identifier) (next : Text) : Prop :=
  match identifier with
  | .quoted _ _ => True
  | .word name => ∀ head ∈ constraintHeads, ¬head <+: [upper name, upper next]

instance (identifier : Identifier) (next : Text) : Decidable (DeclaresColumn identifier next) :=
  match identifier with
  | .quoted _ _ => inferInstanceAs (Decidable True)
  | .word _ => inferInstanceAs (Decidable (∀ head ∈ constraintHeads, _))

def columnOf (name : Text) (words : List Text) (definition : Text) : Column where
  name
  dataType := readType words
  isNullable := !isNotNull words
  defaultValue := readDefault words
  autoIncrement := isAutoIncrement words
  charset := readCharset words
  collation := readCollation words
  definition

theorem nextWord_pad {pad : Text} (blanks : ∀ c ∈ pad, isBlank c) (t : Text) :
    nextWord (t ++ pad) = nextWord t := by
  have stops : ∀ c ∈ pad.head?, isWord c = false :=
    fun c first => isWord_of_isBlank (blanks c (List.mem_of_mem_head? first))
  rw [nextWord, nextWord, trimStart, List.dropWhile_append]
  split
  · rename_i empty
    have rest : pad.dropWhile isBlank = [] := List.dropWhile_eq_nil_iff.mpr blanks
    rw [trimStart, List.isEmpty_iff.mp empty, rest]
  · exact takeWhile_append_of_stop stops _

theorem definitionWords_trimEnd (t : Text) : definitionWords (trimEnd t) = definitionWords t :=
  splitTopLevel_trimEnd t

theorem leadingWords_word {name : Text} (valid : (Identifier.word name).Valid) {after : Text}
    (ends : ∀ c ∈ after.head?, isWord c = false) :
    leadingWords (name ++ after) <+: [name, nextWord after] := by
  have front := takeWhile_append_stop valid.2 ends
  have back := dropWhile_append_stop valid.2 ends
  cases name with
  | nil => exact absurd rfl valid.1
  | cons c others =>
    simp only [leadingWords, front, back]
    split
    · exact List.prefix_rfl
    · exact List.prefix_append [_] [_]

section

variable {identifier : Identifier} (valid : identifier.Valid) {after : Text}
  (ends : identifier.Ends after) (declares : DeclaresColumn identifier (nextWord after))

include valid ends declares

theorem isConstraint_declared : isConstraint (identifier.text ++ after) = false := by
  have solid : ∀ head ∈ constraintHeads, head ≠ [] := by decide
  rw [isConstraint, List.any_eq_false]
  intro head known begins
  have starts := List.isPrefixOf_iff_prefix.mp begins
  cases identifier with
  | quoted mark name =>
    have apart : isWord mark = false := by rcases valid.1 with rfl | rfl <;> rfl
    have none : leadingWords ((Identifier.quoted mark name).text ++ after) = [] := by
      simp [leadingWords, Identifier.text, apart]
    rw [none] at starts
    exact solid head known (List.prefix_nil.mp starts)
  | word name =>
    have front := (leadingWords_word valid ends).map upper
    exact declares head known (starts.trans front)

/-- Whatever the layout, the words after the identifier decide about the column. -/
theorem readColumn_identifier :
    readColumn (identifier.text ++ after) =
      some (columnOf identifier.name (definitionWords after) (trim (identifier.text ++ after))) := by
  obtain ⟨pad, blanks, split, _⟩ := trimEnd_split after
  have trimmed : trim (identifier.text ++ after) = identifier.text ++ trimEnd after := by
    rw [trim, trimStart_eq_self_iff.mpr (startsDark_identifier valid _),
      trimEnd_append_of_endsDark (endsDark_identifier valid)]
  have endsTrimmed : identifier.Ends (trimEnd after) := by
    cases identifier with
    | quoted mark name => trivial
    | word name =>
      intro c first
      apply ends
      rw [split, List.head?_append, Option.mem_def.mp first]
      rfl
  have declaresTrimmed : DeclaresColumn identifier (nextWord (trimEnd after)) := by
    rwa [split, nextWord_pad blanks] at declares
  rw [readColumn, trimmed]
  simp only [isConstraint_declared valid endsTrimmed declaresTrimmed,
    readIdentifier_text valid endsTrimmed, definitionWords_trimEnd]
  rfl

end

end SchemaDiff.Ddl
