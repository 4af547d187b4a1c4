import SchemaDiff.Proofs.Sql.Comment

/-
Outlines. The outline of a text has one space for each comment and, for each literal, the quote that opens
it. A text without its comments stays in step with the outline when both are squeezed and trimmed, and the
comments that come to light are those that the outline shows.
-/
namespace SchemaDiff.Sql
open SchemaDiff.Text SchemaDiff.Text.Pattern

/-- A space for a comment, the opening quote of a literal, and any other lexeme as it is. -/
def Lexeme.outline (l : Lexeme) : Text :=
  if l.isComment then [' '] else if l.text.head?.any opensQuote then l.text.take 1 else l.text

def outline (t : Text) : Text := (plainLexer.lexemes t).flatMap Lexeme.outline

section

variable {kind : Char × Bool} {c : Char} {w t u : Text}

theorem uncommented_bare (other : opensQuote c = false) (noComment : comment (c :: t) = none) :
    uncommented plainLexer (c :: t) = c :: uncommented plainLexer t := by
  rw [uncommented, lexemes_bare other noComment]
  rfl

theorem uncommented_literal (known : kind ∈ literalKinds) {body : Text}
    (closed : literalRest kind.1 kind.2 (body ++ t) = some body.length) :
    uncommented plainLexer (kind.1 :: (body ++ t)) = kind.1 :: (body ++ uncommented plainLexer t) := by
  rw [uncommented, lexemes_literal known closed]
  rfl

theorem uncommented_lone (known : kind ∈ literalKinds) (last : kind.1 ∉ t) :
    uncommented plainLexer (kind.1 :: t) = kind.1 :: uncommented plainLexer t := by
  rw [uncommented, lexemes_lone known last]
  rfl

theorem uncommented_comment (found : comment (w ++ t) = some w.length) :
    uncommented plainLexer (w ++ t) = ' ' :: uncommented plainLexer t := by
  rw [uncommented, lexemes_comment found]
  rfl

theorem Calm.thins (calm : Calm (c :: t)) (thins : Thins t u) : Calm (c :: u) where
  dashes front := by
    obtain ⟨rfl, next⟩ := List.cons_prefix_cons.mp front
    exact calm.dashes (List.cons_prefix_cons.mpr ⟨rfl, thins.isPrefix (by decide) next⟩)
  block front ending := by
    obtain ⟨rfl, next⟩ := List.cons_prefix_cons.mp front
    obtain ⟨u, rfl⟩ := next
    cases thins with
    | keep _ t _ later =>
      exact calm.block (List.prefix_append ['/', '*'] t) (later.isInfix (by decide) ending)
    | gap _ _ _ _ blank _ =>
      have dark : isBlank '*' = false := by decide
      rw [blank] at dark
      contradiction

end

/-- The second text shows the first without what its literals enclose. A quote that opens nothing is the last
of its kind. -/
inductive Outlines : Text → Text → Prop
  | nil : Outlines [] []
  | bare (c : Char) (t o : Text) (other : opensQuote c = false) (calm : Calm (c :: t)) (later : Outlines t o) :
    Outlines (c :: t) (c :: o)
  | literal (kind : Char × Bool) (known : kind ∈ literalKinds) (body t o : Text)
    (inside : LiteralBody kind.1 kind.2 t body) (later : Outlines t o) :
    Outlines (kind.1 :: (body ++ t)) (kind.1 :: o)
  | lone (kind : Char × Bool) (known : kind ∈ literalKinds) (t o : Text) (last : kind.1 ∉ t)
    (later : Outlines t o) : Outlines (kind.1 :: t) (kind.1 :: o)

namespace Outlines

variable {t o : Text}

theorem head?_eq (same : Outlines t o) : t.head? = o.head? := by
  cases same <;> rfl

theorem space (same : Outlines t o) : Outlines (' ' :: t) (' ' :: o) := by
  have calm : Calm (' ' :: t) :=
    { dashes := fun front => absurd (List.cons_prefix_cons.mp front).1 (by decide)
      block := fun front => absurd (List.cons_prefix_cons.mp front).1 (by decide) }
  exact .bare ' ' t o (by decide) calm same

theorem squeezeAfter (same : Outlines t o) (blank : Bool) :
    Outlines (squeezeAfter blank t) (squeezeAfter blank o) := by
  induction same generalizing blank with
  | nil => exact .nil
  | bare c t o other calm later ih =>
    rw [Text.squeezeAfter, Text.squeezeAfter]
    split
    · split
      · exact ih true
      · exact (ih true).space
    · exact .bare c _ _ other (calm.thins (thins_squeeze t)) (ih false)
  | literal kind known body t o inside later ih =>
    have dark := isBlank_kind kind known
    have squeezed : LiteralBody kind.1 kind.2 (squeeze t) (Text.squeezeAfter false body) :=
      (inside.squeezeAfter dark false).before dark (thins_squeeze t)
    have ends := squeezeAfter_append_of_endsDark inside.solid (inside.endsDark dark) t false
    simpa [Text.squeezeAfter, dark, ends] using literal kind known _ _ _ squeezed (ih false)
  | lone kind known t o last later ih =>
    have dark := isBlank_kind kind known
    have gone : kind.1 ∉ Text.squeezeAfter false t := (thins_squeeze t).not_mem dark last
    simpa [Text.squeezeAfter, dark] using lone kind known _ _ gone (ih false)

theorem nil_iff (same : Outlines t o) : t = [] ↔ o = [] := by
  cases same <;> simp

theorem trimEnd (same : Outlines t o) : Outlines (trimEnd t) (trimEnd o) := by
  induction same with
  | nil => exact .nil
  | bare c t o other calm later ih =>
    simp only [trimEnd_cons, ih.nil_iff]
    split
    · exact .nil
    · exact .bare c _ _ other (calm.thins (thins_trimEnd t)) ih
  | literal kind known body t o inside later ih =>
    have dark := isBlank_kind kind known
    rw [trimEnd_cons_of_dark dark, trimEnd_cons_of_dark dark, trimEnd_append_of_endsDark (inside.endsDark dark)]
    exact .literal kind known body _ _ (inside.before dark (thins_trimEnd t)) ih
  | lone kind known t o last later ih =>
    have dark := isBlank_kind kind known
    rw [trimEnd_cons_of_dark dark, trimEnd_cons_of_dark dark]
    exact .lone kind known _ _ ((thins_trimEnd t).not_mem dark last) ih

theorem trimStart (same : Outlines t o) : Outlines (trimStart t) (trimStart o) := by
  induction same with
  | nil => exact .nil
  | bare c t o other calm later ih =>
    by_cases space : isBlank c
    · simpa [Text.trimStart, space] using ih
    · simpa [Text.trimStart, space] using bare c t o other calm later
  | literal kind known body t o inside later =>
    simpa [Text.trimStart, isBlank_kind kind known] using literal kind known body t o inside later
  | lone kind known t o last later =>
    simpa [Text.trimStart, isBlank_kind kind known] using lone kind known t o last later

theorem trim (same : Outlines t o) : Outlines (trim t) (trim o) := same.trimStart.trimEnd

/-- Dashes and block comments are gone for good, but a number sign may have come to stand before a space. -/
theorem commentFree_iff (same : Outlines t o) : CommentFree plainLexer t ↔ ¬['#', ' '] <:+: o := by
  have hash {c : Char} (other : opensQuote c) : c ≠ '#' := by
    rintro rfl
    contradiction
  induction same with
  | nil => exact ⟨fun _ => by decide, fun _ => by decide⟩
  | bare c t o other calm later ih =>
    have shown : ['#', ' '] <+: c :: o ↔ ['#', ' '] <+: c :: t := by
      have singleton (u : Text) : [' '] <+: u ↔ u.head? = some ' ' := by cases u <;> simp [eq_comm]
      rw [List.cons_prefix_cons, List.cons_prefix_cons, singleton, singleton, later.head?_eq]
    rw [List.infix_cons_iff, not_or, shown]
    refine Iff.trans ?_ (and_congr_right' ih)
    cases found : comment (c :: t) with
    | none =>
      have noHash := (comment_eq_none.mp found).2
      rw [CommentFree, lexemes_bare other found, List.forall_mem_cons]
      exact ⟨fun free => ⟨noHash, free.2⟩, fun free => ⟨rfl, free.2⟩⟩
    | some n =>
      have marked : ['#', ' '] <+: c :: t := by
        by_contra noHash
        rw [comment_eq_none.mpr ⟨calm, noHash⟩] at found
        exact absurd found.symm (Option.some_ne_none n)
      obtain ⟨_, within⟩ := within_comment found
      have whole := List.take_append_drop n (c :: t)
      have remark : comment ((c :: t).take n ++ (c :: t).drop n) = some ((c :: t).take n).length := by
        rw [whole, found, List.length_take, Nat.min_eq_left within]
      have cut := lexemes_comment remark
      rw [whole] at cut
      simp [CommentFree, cut, marked]
  | literal kind known body t o inside later ih =>
    have front : ¬['#', ' '] <+: kind.1 :: o := fun front =>
      hash (opensQuote_kind known) (List.cons_prefix_cons.mp front).1.symm
    rw [List.infix_cons_iff, not_or]
    refine Iff.trans ?_ (and_congr_right' ih)
    simp [CommentFree, lexemes_literal known inside.literalRest, front]
  | lone kind known t o last later ih =>
    have front : ¬['#', ' '] <+: kind.1 :: o := fun front =>
      hash (opensQuote_kind known) (List.cons_prefix_cons.mp front).1.symm
    rw [List.infix_cons_iff, not_or]
    refine Iff.trans ?_ (and_congr_right' ih)
    simp [CommentFree, lexemes_lone known last, front]

end Outlines

section

variable {kind : Char × Bool} {c : Char} {w t : Text}

theorem outline_bare (other : opensQuote c = false) (noComment : comment (c :: t) = none) :
    outline (c :: t) = c :: outline t := by
  rw [outline, lexemes_bare other noComment]
  simp [Lexeme.outline, other, outline]

theorem outline_literal (known : kind ∈ literalKinds) {body : Text}
    (closed : literalRest kind.1 kind.2 (body ++ t) = some body.length) :
    outline (kind.1 :: (body ++ t)) = kind.1 :: outline t := by
  rw [outline, lexemes_literal known closed]
  simp [Lexeme.outline, opensQuote_kind known, outline]

theorem outline_lone (known : kind ∈ literalKinds) (last : kind.1 ∉ t) :
    outline (kind.1 :: t) = kind.1 :: outline t := by
  rw [outline, lexemes_lone known last]
  simp [Lexeme.outline, opensQuote_kind known, outline]

theorem outline_comment (found : comment (w ++ t) = some w.length) : outline (w ++ t) = ' ' :: outline t := by
  rw [outline, lexemes_comment found]
  rfl

end

theorem outlines_uncommented (t : Text) : Outlines (uncommented plainLexer t) (outline t) := by
  induction t using lexeme_induction with
  | nil => exact .nil
  | bare c t other noComment ih =>
    rw [uncommented_bare other noComment, outline_bare other noComment]
    exact .bare c _ _ other ((comment_eq_none.mp noComment).1.thins (thins_uncommented plainLexer t)) ih
  | literal kind known body t closed ih =>
    have inside := (literalBody_of_literalRest closed).before (isBlank_kind kind known) (thins_uncommented plainLexer t)
    rw [uncommented_literal known closed, outline_literal known closed]
    exact .literal kind known body _ _ inside ih
  | lone kind known t last ih =>
    have gone := (thins_uncommented plainLexer t).not_mem (isBlank_kind kind known) last
    rw [uncommented_lone known last, outline_lone known last]
    exact .lone kind known _ _ gone ih
  | remark w t found ih =>
    rw [uncommented_comment found, outline_comment found]
    exact ih.space

end SchemaDiff.Sql
