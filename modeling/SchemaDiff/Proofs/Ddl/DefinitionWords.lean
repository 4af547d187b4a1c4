import SchemaDiff.Ddl.ColumnDefinition
import SchemaDiff.Proofs.Ddl.Identifier
import SchemaDiff.Proofs.Text.Case

/-
The words of a definition. A token is a text that stays whole when a definition is cut into words;
tokens with single spaces before them are what the definition is cut into.
-/
namespace SchemaDiff.Ddl
open SchemaDiff.Text SchemaDiff.Sql

/-- One word of a definition, literals and groups in parentheses included. -/
abbrev Token (w : Text) : Prop := Piece .tracked separatesWords w

theorem not_separatesWords_of_isWord {c : Char} (word : isWord c) : separatesWords c = false := by
  have dark := isBlank_of_isWord word
  by_cases separates : separatesWords c
  · have blank := isBlank_of_separatesWords separates
    rw [dark] at blank
    contradiction
  · simpa using separates

theorem trim_word {w : Text} (all : ∀ c ∈ w, isWord c) : trim w = w := by
  apply trim_eq_of_dark
  · intro c first
    exact isBlank_of_isWord (all c (List.mem_of_mem_head? first))
  · intro c last
    exact isBlank_of_isWord (all c (List.mem_of_getLast? last))

theorem whole_word {w : Text} (all : ∀ c ∈ w, isWord c) : Whole .tracked separatesWords w :=
  whole_of_isWord (fun _ => not_separatesWords_of_isWord) all

theorem token_word {w : Text} (solid : w ≠ []) (all : ∀ c ∈ w, isWord c) : Token w :=
  { toWhole := whole_word all, solid, trimmed := trim_word all }

theorem definitionWords_spaced {words : List Text} (all : ∀ w ∈ words, Token w) :
    definitionWords (' ' :: [' '].intercalate words) = words := by
  have cuts : Cuts separatesWords ' ' := ⟨rfl, rfl⟩
  have noGap : Gap separatesWords [] := by decide
  have first : definitionWords (' ' :: [' '].intercalate words) =
      piecesAfter .tracked separatesWords (ScanState.start.feed .tracked ' ')
        ([' '].intercalate words) := piecesAfter_cut rfl cuts _
  rw [first]
  exact piecesAfter_intercalate cuts noGap all rfl [] noGap

def spaced (words : List Text) : Text := words.flatMap (' ' :: ·)

theorem spaced_append (us vs : List Text) : spaced (us ++ vs) = spaced us ++ spaced vs :=
  List.flatMap_append

theorem intercalate_cons_spaced (w : Text) (ws : List Text) :
    [' '].intercalate (w :: ws) = w ++ spaced ws := by
  induction ws generalizing w with
  | nil => simp [spaced, List.intercalate_singleton]
  | cons v others ih =>
    rw [List.intercalate_cons_cons, ih, List.append_assoc]
    rfl

theorem spaced_eq {words : List Text} (someWords : words ≠ []) :
    spaced words = ' ' :: [' '].intercalate words := by
  cases words with
  | nil => contradiction
  | cons w others =>
    rw [intercalate_cons_spaced]
    rfl

def group (inside : Text) : Text := '(' :: inside ++ [')']

theorem isParenthesised_group (inside : Text) : isParenthesised (group inside) := by
  simp [isParenthesised, group, List.getLast?_cons]

theorem endsDark_group (inside : Text) : EndsDark (group inside) := by
  have last : EndsDark [')'] := by decide
  exact (endsDark_append (List.cons_ne_nil _ _)).mpr last

theorem startsDark_group (inside : Text) : StartsDark (group inside) := by
  intro c first
  cases first
  decide

theorem token_group {inside : Text} (nested : Nested inside) : Token (group inside) where
  toWhole := whole_group nested rfl rfl
  solid := List.cons_ne_nil _ _
  trimmed := trim_eq_of_dark (startsDark_group inside) (endsDark_group inside)

theorem token_word_group {w inside : Text} (solid : w ≠ []) (all : ∀ c ∈ w, isWord c)
    (nested : Nested inside) : Token (w ++ group inside) where
  toWhole := whole_append (whole_word all) (whole_group nested rfl rfl)
  solid := by simp [solid]
  trimmed := by
    have first := (trim_eq_self_iff.mp (trim_word all)).1
    exact trim_eq_of_dark (startsDark_of_front solid first _)
      ((endsDark_append (List.cons_ne_nil _ _)).mpr (endsDark_group inside))

end SchemaDiff.Ddl
