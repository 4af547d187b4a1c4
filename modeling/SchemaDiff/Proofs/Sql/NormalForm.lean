import SchemaDiff.Proofs.Sql.Outline
import SchemaDiff.Sql.RuleTable

/-
Normal forms. A script in normal form is one that the normal form leaves as it is. The normal form of a
script is trimmed, and its only blanks are isolated spaces; it begins with no byte-order mark and has no
comments unless one comes to light when the comments and blanks around it are gone.
-/
namespace SchemaDiff.Sql
open SchemaDiff.Text

variable {lexer : Lexer}

theorem two_le_text (t : Text) : ∀ l ∈ plainLexer.lexemes t, l.isComment → 2 ≤ l.text.length := by
  induction t using lexeme_induction with
  | nil => exact fun l member => absurd member List.not_mem_nil
  | bare c t other noComment ih => simpa [lexemes_bare other noComment] using ih
  | literal kind known body t closed ih => simpa [lexemes_literal known closed] using ih
  | lone kind known t last ih => simpa [lexemes_lone known last] using ih
  | remark w t found ih => simpa [lexemes_comment found, (within_comment found).1] using ih

theorem length_withoutComment {ls : List Lexeme} (all : ∀ l ∈ ls, l.isComment → 2 ≤ l.text.length) :
    (ls.flatMap Lexeme.withoutComment).length + ls.countP Lexeme.isComment ≤ (ls.flatMap Lexeme.text).length := by
  induction ls with
  | nil => simp
  | cons l ls ih =>
    obtain ⟨first, others⟩ := List.forall_mem_cons.mp all
    have later := ih others
    simp only [List.flatMap_cons, List.length_append, List.countP_cons]
    by_cases remark : l.isComment
    · have two := first remark
      simp only [Lexeme.withoutComment, remark, ↓reduceIte, List.length_singleton]
      omega
    · simp only [Lexeme.withoutComment, remark, Bool.false_eq_true, ↓reduceIte]
      omega

theorem length_normalize (t : Text) :
    (normalize plainLexer t).length + (plainLexer.lexemes (afterMarks t)).countP Lexeme.isComment ≤
      (afterMarks t).length := by
  have remarks := length_withoutComment (two_le_text (afterMarks t))
  have squeezed := length_squeezeAfter false (uncommented plainLexer (afterMarks t))
  have trimmed := (trim_isInfix (squeeze (uncommented plainLexer (afterMarks t)))).length_le
  rw [plainLexer.flatMap_text] at remarks
  exact (Nat.add_le_add_right (trimmed.trans squeezed) _).trans remarks

theorem count_normalize {q : Char} (dark : isBlank q = false) (lexer : Lexer) (t : Text) :
    (normalize lexer t).count q ≤ (afterMarks t).count q :=
  calc (normalize lexer t).count q
      ≤ (squeeze (uncommented lexer (afterMarks t))).count q := (trim_isInfix _).sublist.count_le q
    _ ≤ (uncommented lexer (afterMarks t)).count q := (thins_squeeze _).count dark
    _ ≤ (afterMarks t).count q := (thins_uncommented lexer _).count dark

structure NormalForm (lexer : Lexer) (t : Text) : Prop where
  starts : StartsDark t
  ends : EndsDark t
  isolated : Isolated t
  noMark : t.head? ≠ some byteOrderMark
  commentFree : CommentFree lexer t

theorem layout_normalize (lexer : Lexer) (t : Text) :
    StartsDark (normalize lexer t) ∧ EndsDark (normalize lexer t) ∧ Isolated (normalize lexer t) := by
  have dark : StartsDark (normalize lexer t) ∧ EndsDark (normalize lexer t) := dark_trim _
  exact ⟨dark.1, dark.2, tidy_iff_isolated.mp (tidy_of_isInfix (trim_isInfix _) (tidy_squeeze _))⟩

theorem head?_ne_of_normalize_eq_self {t : Text} (same : normalize lexer t = t) :
    t.head? ≠ some byteOrderMark := by
  intro first
  obtain ⟨rest, rfl⟩ := List.head?_eq_some_iff.mp first
  have kept := count_normalize (q := byteOrderMark) (by decide) lexer (byteOrderMark :: rest)
  have fewer : (afterMarks rest).count byteOrderMark ≤ rest.count byteOrderMark :=
    (List.dropWhile_suffix _).sublist.count_le _
  rw [same, List.count_cons_self, afterMarks, List.dropWhile_cons_of_pos (by decide), ← afterMarks] at kept
  omega

theorem commentFree_of_normalize_eq_self {t : Text} (same : normalize plainLexer t = t) :
    CommentFree plainLexer t := by
  have kept := length_normalize t
  rw [same, afterMarks_eq_self (head?_ne_of_normalize_eq_self same)] at kept
  have none : (plainLexer.lexemes t).countP Lexeme.isComment = 0 := by omega
  simpa [CommentFree] using List.countP_eq_zero.mp none

/-- The scripts that the normal form leaves as they are. -/
theorem normalize_eq_self_iff {t : Text} (heeds : HeedsQuotes lexer t) :
    normalize lexer t = t ↔ NormalForm lexer t := by
  constructor
  · intro same
    obtain ⟨starts, ends, isolated⟩ := layout_normalize lexer t
    rw [same] at starts ends isolated
    have noMark := head?_ne_of_normalize_eq_self same
    have heedsAfter : HeedsQuotes lexer (afterMarks t) := by rwa [afterMarks_eq_self noMark]
    have plain : normalize plainLexer t = t := (normalize_congr heedsAfter).symm.trans same
    exact ⟨starts, ends, isolated, noMark, (commentFree_congr heeds).mpr (commentFree_of_normalize_eq_self plain)⟩
  · intro form
    have squeezed : squeeze t = t := tidy_iff_isolated.mpr form.isolated
    rw [normalize_of_commentFree form.noMark form.commentFree, squeezed, trim_eq_of_dark form.starts form.ends]

theorem head?_normalize (lexer : Lexer) (t : Text) :
    (normalize lexer t).head? = (darkOnly (uncommented lexer (afterMarks t))).head? := by
  rw [normalize, ← head?_darkOnly (dark_trim _).1, darkOnly_trim, squeeze, darkOnly_squeezeAfter]

theorem commentFree_normalize_iff {t : Text} (heeds : HeedsQuotes lexer (afterMarks t))
    (heedsNormal : HeedsQuotes lexer (normalize lexer t)) :
    CommentFree lexer (normalize lexer t) ↔ ¬['#', ' '] <:+: trim (squeeze (outline (afterMarks t))) := by
  have same := ((outlines_uncommented (afterMarks t)).squeezeAfter false).trim
  rw [commentFree_congr heedsNormal, normalize_congr heeds]
  exact same.commentFree_iff

/-- The layout of the normal form never fails. It begins with a mark only where one comes after leading
comments and blanks, and has a comment only where a number sign has come to stand before a space; without
either, it is a text in normal form. -/
theorem normalForm_normalize (lexer : Lexer) (t : Text) :
    (StartsDark (normalize lexer t) ∧ EndsDark (normalize lexer t) ∧ Isolated (normalize lexer t)) ∧
      (normalize lexer t).head? = (darkOnly (uncommented lexer (afterMarks t))).head? ∧
      (HeedsQuotes lexer (afterMarks t) → HeedsQuotes lexer (normalize lexer t) →
        (CommentFree lexer (normalize lexer t) ↔ ¬['#', ' '] <:+: trim (squeeze (outline (afterMarks t))))) ∧
      (HeedsQuotes lexer (normalize lexer t) →
        (normalize lexer (normalize lexer t) = normalize lexer t ↔
          (normalize lexer t).head? ≠ some byteOrderMark ∧ CommentFree lexer (normalize lexer t))) := by
  obtain ⟨starts, ends, isolated⟩ := layout_normalize lexer t
  refine ⟨⟨starts, ends, isolated⟩, head?_normalize lexer t, commentFree_normalize_iff, fun heeds => ?_⟩
  rw [normalize_eq_self_iff heeds]
  constructor
  · intro form
    exact ⟨form.noMark, form.commentFree⟩
  · intro ⟨noMark, commentFree⟩
    exact ⟨starts, ends, isolated, noMark, commentFree⟩

theorem normalForm_normalize_remarked :
    let lexer := RuleTable.lexer
    let t : Text := lit "\ufeff-- it's\nCREATE\tTABLE `a#  --b` (x INT DEFAULT '/*  ''' /* y\n*/) # z"
    (HeedsQuotes lexer (afterMarks t) ∧ HeedsQuotes lexer (normalize lexer t)) ∧
      normalize lexer t = lit "CREATE TABLE `a# --b` (x INT DEFAULT '/* ''' )" ∧
      CommentFree lexer (normalize lexer t) ∧ normalize lexer (normalize lexer t) = normalize lexer t := by
  intro lexer t
  have normal : normalize lexer t = lit "CREATE TABLE `a# --b` (x INT DEFAULT '/* ''' )" := by decide +kernel
  have heeds : HeedsQuotes lexer (afterMarks t) := by decide +kernel
  have heedsNormal : HeedsQuotes lexer (normalize lexer t) := by
    rw [normal]
    decide +kernel
  have noHash : ¬['#', ' '] <:+: trim (squeeze (outline (afterMarks t))) := by decide +kernel
  obtain ⟨_, _, commentFree, settled⟩ := normalForm_normalize lexer t
  have free := (commentFree heeds heedsNormal).mpr noHash
  have noMark : (normalize lexer t).head? ≠ some byteOrderMark := by
    rw [normal]
    decide
  exact ⟨⟨heeds, heedsNormal⟩, normal, free, (settled heedsNormal).mpr ⟨noMark, free⟩⟩

/-- A number sign opens a comment once the line feed after it is a space, and a byte-order mark comes to the
front once the comment before it is gone. -/
theorem normalize_unsettled :
    let lexer := RuleTable.lexer
    let signed := normalize lexer "#\nCREATE TABLE a (x INT)"
    signed = lit "# CREATE TABLE a (x INT)" ∧ ¬CommentFree lexer signed ∧ normalize lexer signed = [] ∧
      (normalize lexer "/**/\ufeffCREATE TABLE t (c INT)").head? = some byteOrderMark := by
  decide +kernel

end SchemaDiff.Sql
