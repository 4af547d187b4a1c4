import SchemaDiff.Proofs.Text.Thinning
import SchemaDiff.Sql.Normal

/-
What the normal form makes of the comments that a lexer finds. Where it finds none, the normal form is the
trimmed and squeezed script itself, and lexers that find the same comments give the same normal form.
-/
namespace SchemaDiff.Sql
open SchemaDiff.Text

variable {lexer other : Lexer} {t : Text}

/-- Comment marks may stand in literals and names. -/
def CommentFree (lexer : Lexer) (t : Text) : Prop := ∀ l ∈ lexer.lexemes t, l.isComment = false

instance (lexer : Lexer) (t : Text) : Decidable (CommentFree lexer t) :=
  inferInstanceAs (Decidable (∀ l ∈ lexer.lexemes t, l.isComment = false))

theorem thins_uncommented (lexer : Lexer) (t : Text) : Thins t (uncommented lexer t) := by
  have all (ls : List Lexeme) : Thins (ls.flatMap Lexeme.text) (ls.flatMap Lexeme.withoutComment) := by
    induction ls with
    | nil => exact .stop []
    | cons l ls ih =>
      rw [List.flatMap_cons, List.flatMap_cons, Lexeme.withoutComment]
      split
      · exact .gap l.text ' ' _ _ (by decide) ih
      · exact ih.append l.text
  have whole := all (lexer.lexemes t)
  rwa [lexer.flatMap_text] at whole

theorem uncommented_of_commentFree (free : CommentFree lexer t) : uncommented lexer t = t := by
  have same : (lexer.lexemes t).flatMap Lexeme.withoutComment = (lexer.lexemes t).flatMap Lexeme.text := by
    apply List.flatMap_congr
    intro l member
    rw [Lexeme.withoutComment, free l member]
    rfl
  rw [uncommented, same, lexer.flatMap_text]

theorem afterMarks_eq_self (noMark : t.head? ≠ some byteOrderMark) : afterMarks t = t := by
  cases t with
  | nil => rfl
  | cons c rest =>
    have other : c ≠ byteOrderMark := by
      rintro rfl
      exact noMark rfl
    simp [afterMarks, other]

theorem normalize_of_commentFree (noMark : t.head? ≠ some byteOrderMark) (free : CommentFree lexer t) :
    normalize lexer t = trim (squeeze t) := by
  rw [normalize, afterMarks_eq_self noMark, uncommented_of_commentFree free]

def Lexeme.withGap (l : Lexeme) : List (Option Char) := if l.isComment then [none] else l.text.map some

/-- The characters of the text, with nothing in the place of each comment. -/
def Lexer.withGaps (lexer : Lexer) (t : Text) : List (Option Char) :=
  (lexer.lexemes t).flatMap Lexeme.withGap

theorem uncommented_eq_map (lexer : Lexer) (t : Text) :
    uncommented lexer t = (lexer.withGaps t).map (·.getD ' ') := by
  rw [uncommented, Lexer.withGaps, List.map_flatMap]
  apply List.flatMap_congr
  intro l _
  rw [Lexeme.withoutComment, Lexeme.withGap]
  split <;> simp [Function.comp_def]

theorem commentFree_iff : CommentFree lexer t ↔ none ∉ lexer.withGaps t := by
  have gap (l : Lexeme) : none ∉ l.withGap ↔ l.isComment = false := by
    rw [Lexeme.withGap]
    split <;> simp_all
  simp only [CommentFree, Lexer.withGaps, List.mem_flatMap, not_exists, not_and, gap]

theorem commentFree_congr (same : lexer.withGaps t = other.withGaps t) :
    CommentFree lexer t ↔ CommentFree other t := by
  rw [commentFree_iff, commentFree_iff, same]

theorem normalize_congr (same : lexer.withGaps (afterMarks t) = other.withGaps (afterMarks t)) :
    normalize lexer t = normalize other t := by
  rw [normalize, normalize, uncommented_eq_map, uncommented_eq_map, same]

end SchemaDiff.Sql
