import SchemaDiff.Text.Basic
/-
Lexemes of SQL text. Which of them are comments is for a lexer to say, and all that is asked of one is
that its lexemes make up the text again.
-/
namespace SchemaDiff.Sql

structure Lexeme where
  isComment : Bool
  text : Text
deriving DecidableEq, Repr

structure Lexer where
  lexemes : Text → List Lexeme
  flatMap_text : ∀ t, (lexemes t).flatMap Lexeme.text = t

/-- Whether the lexeme at the front of a text is a comment, and how many characters it takes. The
character before the text is at hand, too. -/
abbrev FirstLexeme := Option Char → Text → Bool × Nat

namespace FirstLexeme

variable (first : FirstLexeme)

def lexemesAfter : Nat → Option Char → Text → List Lexeme
  | 0, _, _ => []
  | _ + 1, _, [] => []
  | limit + 1, previous, c :: rest =>
    let next := first previous (c :: rest)
    let word := c :: rest.take (next.2 - 1)
    ⟨next.1, word⟩ :: lexemesAfter limit word.getLast? (rest.drop (next.2 - 1))

theorem flatMap_text_lexemesAfter {limit : Nat} {t : Text} (enough : t.length ≤ limit)
    (previous : Option Char) : (first.lexemesAfter limit previous t).flatMap Lexeme.text = t := by
  induction limit generalizing t previous with
  | zero =>
    rw [List.eq_nil_of_length_eq_zero (Nat.le_zero.mp enough)]
    rfl
  | succ limit ih =>
    cases t with
    | nil => rfl
    | cons c rest =>
      rw [lexemesAfter, List.flatMap_cons, ih]
      · exact congrArg (c :: ·) (List.take_append_drop _ rest)
      · simp only [List.length_drop, List.length_cons] at enough ⊢
        omega

def lexer : Lexer where
  lexemes t := first.lexemesAfter t.length none t
  flatMap_text _ := first.flatMap_text_lexemesAfter (Nat.le_refl _) none

end FirstLexeme

end SchemaDiff.Sql
