import SchemaDiff.Proofs.Sql.Lexeme
import SchemaDiff.Proofs.Sql.QuotedText
import SchemaDiff.Proofs.Text.Lookahead

/-
Comments outside quoted text. The plainest lexer knows nothing but comments and quoted text and takes all else
character by character; a lexer heeds the quotes of a text if it finds the same comments there.
-/
namespace SchemaDiff.Sql
open SchemaDiff.Text SchemaDiff.Text.Pattern

section

variable {t u part : Text} {n : Nat}

theorem exactly_eq_none {w : Text} : exactly w t = none ↔ ¬w <+: t := by
  rw [exactly, ite_eq_right_iff, ← List.isPrefixOf_iff_prefix]
  simp

theorem indexOf?_eq_none (t : Text) : indexOf? part t = none ↔ ¬part <:+: t := by
  induction t with
  | nil => simp [indexOf?, List.infix_nil]
  | cons c rest ih =>
    rw [indexOf?, List.infix_cons_iff, ← List.isPrefixOf_iff_prefix]
    by_cases front : part.isPrefixOf (c :: rest)
    · simp [front]
    · simp [front, ih]

theorem indexOf?_append {i : Nat} (found : indexOf? part t = some i) (u : Text) :
    indexOf? part (t ++ u) = some i ∧ i + part.length ≤ t.length := by
  induction t generalizing i with
  | nil =>
    simp only [indexOf?, Option.ite_none_right_eq_some, Option.some.injEq] at found
    obtain ⟨rfl, rfl⟩ := found
    cases u <;> simp [indexOf?]
  | cons c rest ih =>
    rw [List.cons_append, indexOf?]
    rw [indexOf?] at found
    by_cases front : part.isPrefixOf (c :: rest)
    · obtain rfl : 0 = i := by simpa [front] using found
      have start := List.isPrefixOf_iff_prefix.mp front
      have followed := List.isPrefixOf_iff_prefix.mpr (start.trans (List.prefix_append (c :: rest) u))
      rw [← List.cons_append, if_pos followed]
      exact ⟨rfl, by simpa using start.length_le⟩
    · rw [if_neg front] at found
      obtain ⟨j, later, rfl⟩ := Option.map_eq_some_iff.mp found
      obtain ⟨same, within⟩ := ih later
      have short : part.length ≤ (c :: rest).length := by
        rw [List.length_cons]
        omega
      have followed : ¬part.isPrefixOf (c :: (rest ++ u)) := by
        intro longer
        rw [List.isPrefixOf_iff_prefix] at longer front
        exact front (List.prefix_of_prefix_length_le longer (List.prefix_append (c :: rest) u) short)
      rw [if_neg followed, same, List.length_cons]
      exact ⟨rfl, by omega⟩

theorem restOfLine_le (t : Text) : restOfLine t ≤ t.length := by
  fun_induction restOfLine t with
  | case1 => simp
  | case2 => simp
  | case3 => simp
  | case4 => simp
  | case5 c rest line pair unix ih => simpa using ih

theorem blockComment_eq_none : blockComment t = none ↔ (['/', '*'] <+: t → ¬['*', '/'] <:+: t.drop 2) := by
  change _ ↔ (lit "/*" <+: t → ¬lit "*/" <:+: t.drop 2)
  by_cases front : lit "/*" <+: t
  · have opened : exactly (lit "/*") t = some 2 := if_pos (List.isPrefixOf_iff_prefix.mpr front)
    have absent : indexOf? (lit "*/") (t.drop 2) = none ↔ ¬lit "*/" <:+: t.drop 2 := indexOf?_eq_none _
    rw [← absent]
    cases found : indexOf? (lit "*/") (t.drop 2) <;> simp [blockComment, seq, through, opened, front, found]
  · simp [blockComment, seq, exactly_eq_none.mpr front, front]

theorem lineMark_eq_some : lineMark t = some n ↔ n = 2 ∧ (['-', '-'] <+: t ∨ ['#', ' '] <+: t) := by
  change _ ↔ n = 2 ∧ (lit "--" <+: t ∨ lit "# " <+: t)
  have two : (lit "--").length = 2 ∧ (lit "# ").length = 2 := ⟨rfl, rfl⟩
  simp only [lineMark, any, exactly, List.findSome?_cons, List.findSome?_nil, List.isPrefixOf_iff_prefix]
  by_cases dashes : lit "--" <+: t
  · simp [dashes, two, eq_comm]
  · by_cases hash : lit "# " <+: t <;> simp [dashes, hash, two, eq_comm]

theorem lineComment_eq_none : lineComment t = none ↔ ¬(['-', '-'] <+: t ∨ ['#', ' '] <+: t) := by
  cases marked : lineMark t with
  | none =>
    have absent (front : ['-', '-'] <+: t ∨ ['#', ' '] <+: t) : False := by
      have found := lineMark_eq_some.mpr ⟨rfl, front⟩
      rw [marked] at found
      contradiction
    exact ⟨fun _ => absent, fun _ => by rw [lineComment, seq, marked]⟩
  | some n => simp [lineComment, seq, marked, (lineMark_eq_some.mp marked).2]

/-- No comment opens at the front of the text, unless a number sign opens one. -/
structure Calm (t : Text) : Prop where
  dashes : ¬['-', '-'] <+: t
  block : ['/', '*'] <+: t → ¬['*', '/'] <:+: t.drop 2

theorem comment_eq_none : comment t = none ↔ Calm t ∧ ¬['#', ' '] <+: t := by
  have parts : comment t = none ↔ blockComment t = none ∧ lineComment t = none := by
    simp [comment, any, List.findSome?_eq_none_iff]
  rw [parts, blockComment_eq_none, lineComment_eq_none, not_or]
  constructor
  · rintro ⟨block, dashes, hash⟩
    exact ⟨⟨dashes, block⟩, hash⟩
  · rintro ⟨⟨dashes, block⟩, hash⟩
    exact ⟨block, dashes, hash⟩

theorem within_comment (found : comment t = some n) : 2 ≤ n ∧ n ≤ t.length := by
  obtain ⟨p, kind, taken⟩ := List.exists_of_findSome?_eq_some found
  simp only [List.mem_cons, List.not_mem_nil, or_false] at kind
  rcases kind with rfl | rfl
  · obtain ⟨k, m, opened, closed, rfl⟩ := seq_cons_eq_some taken
    obtain ⟨i, nothing, ending, rest, rfl⟩ := seq_cons_eq_some closed
    obtain ⟨j, here, rfl⟩ := Option.map_eq_some_iff.mp ending
    rw [exactly, Option.ite_none_right_eq_some, Option.some.injEq] at opened
    obtain ⟨front, rfl⟩ := opened
    obtain rfl : 0 = nothing := Option.some.inj rest
    have two : (lit "/*").length = 2 ∧ (lit "*/").length = 2 := ⟨rfl, rfl⟩
    have long := (List.isPrefixOf_iff_prefix.mp front).length_le
    have short := (indexOf?_append here []).2
    rw [List.length_drop] at short
    omega
  · obtain ⟨k, m, opened, line, rfl⟩ := seq_cons_eq_some taken
    obtain ⟨i, nothing, ending, rest, rfl⟩ := seq_cons_eq_some line
    obtain ⟨rfl, marked⟩ := lineMark_eq_some.mp opened
    obtain rfl : restOfLine (t.drop 2) = i := Option.some.inj ending
    obtain rfl : 0 = nothing := Option.some.inj rest
    have long : 2 ≤ t.length := by rcases marked with front | front <;> exact front.length_le
    have := restOfLine_le (t.drop 2)
    rw [List.length_drop] at this
    omega

end

/- The plainest lexer. -/

def plainFirst (t : Text) : Bool × Nat :=
  match comment t with
  | some n => (true, n)
  | none => (false, (quotedText t).getD 1)

def plainLexer : Lexer := FirstLexeme.lexer fun _ => plainFirst

def opensQuote (c : Char) : Bool := (literalKinds.map Prod.fst).contains c

section

variable {kind : Char × Bool} {c : Char} {w t : Text}

theorem opensQuote_iff : opensQuote c ↔ ∃ kind ∈ literalKinds, kind.1 = c := by
  rw [opensQuote, List.contains_iff_mem, List.mem_map]

theorem opensQuote_kind (known : kind ∈ literalKinds) : opensQuote kind.1 :=
  opensQuote_iff.mpr ⟨kind, known, rfl⟩

theorem isBlank_kind : ∀ kind ∈ literalKinds, isBlank kind.1 = false := by decide

theorem comment_kind (known : kind ∈ literalKinds) (t : Text) : comment (kind.1 :: t) = none := by
  have all : ∀ kind ∈ literalKinds, comment (kind.1 :: t) = none := by
    simp only [literalKinds, List.forall_mem_cons, List.not_mem_nil, false_implies, implies_true, and_true]
    exact ⟨rfl, rfl, rfl, rfl⟩
  exact all kind known

theorem literal_kind (kind : Char × Bool) (t : Text) :
    literal kind.1 kind.2 (kind.1 :: t) = (literalRest kind.1 kind.2 t).map (1 + ·) := by
  cases closed : literalRest kind.1 kind.2 t <;> simp [literal, seq, char, one, closed]

theorem literal_other (other : c ≠ kind.1) (t : Text) : literal kind.1 kind.2 (c :: t) = none := by
  simp [literal, seq, char, one, other]

theorem quotedText_kind (known : kind ∈ literalKinds) (t : Text) :
    quotedText (kind.1 :: t) = (literalRest kind.1 kind.2 t).map (1 + ·) := by
  have apart : ∀ k ∈ literalKinds, ∀ k' ∈ literalKinds, k.1 = k'.1 → k = k' := by decide
  rw [← literal_kind]
  cases found : quotedText (kind.1 :: t) with
  | none => exact (List.findSome?_eq_none_iff.mp found _ (List.mem_map_of_mem known)).symm
  | some n =>
    obtain ⟨p, listed, taken⟩ := List.exists_of_findSome?_eq_some found
    obtain ⟨other, knownOther, rfl⟩ := List.mem_map.mp listed
    by_cases same : kind.1 = other.1
    · obtain rfl := apart kind known other knownOther same
      exact taken.symm
    · rw [literal_other same] at taken
      contradiction

theorem quotedText_other (other : opensQuote c = false) (t : Text) : quotedText (c :: t) = none := by
  rw [quotedText, any, List.findSome?_eq_none_iff]
  intro p listed
  obtain ⟨kind, known, rfl⟩ := List.mem_map.mp listed
  apply literal_other
  rintro rfl
  rw [opensQuote_kind known] at other
  contradiction

theorem lexemesAfter_plainFirst {limit : Nat} (enough : t.length ≤ limit) (previous : Option Char) :
    FirstLexeme.lexemesAfter (fun _ => plainFirst) limit previous t = plainLexer.lexemes t := by
  induction limit using Nat.strong_induction_on generalizing previous t with
  | _ limit ih =>
    cases t with
    | nil => cases limit <;> rfl
    | cons c rest =>
      cases limit with
      | zero => contradiction
      | succ limit =>
        simp only [List.length_cons, Nat.add_le_add_iff_right] at enough
        change _ = FirstLexeme.lexemesAfter (fun _ => plainFirst) (rest.length + 1) none (c :: rest)
        rw [FirstLexeme.lexemesAfter, FirstLexeme.lexemesAfter]
        congr 1
        have short : (rest.drop ((plainFirst (c :: rest)).2 - 1)).length ≤ rest.length := by
          rw [List.length_drop]
          omega
        rw [ih limit (Nat.lt_succ_self _) (short.trans enough), ih rest.length (by omega) short]

theorem lexemes_plainLexer {w t : Text} (solid : w ≠ []) {remark : Bool}
    (first : plainFirst (w ++ t) = (remark, w.length)) :
    plainLexer.lexemes (w ++ t) = ⟨remark, w⟩ :: plainLexer.lexemes t := by
  obtain ⟨c, rest, rfl⟩ := List.exists_cons_of_ne_nil solid
  rw [List.cons_append] at first ⊢
  have cut := lexemesAfter_plainFirst (t := c :: (rest ++ t)) (Nat.le_refl _) none
  rw [List.length_cons, FirstLexeme.lexemesAfter, first, lexemesAfter_plainFirst (by simp)] at cut
  rw [← cut]
  simp

theorem lexemes_comment (found : comment (w ++ t) = some w.length) :
    plainLexer.lexemes (w ++ t) = ⟨true, w⟩ :: plainLexer.lexemes t := by
  have solid : w ≠ [] := by
    rintro rfl
    have := (within_comment found).1
    contradiction
  exact lexemes_plainLexer solid (by rw [plainFirst, found])

theorem lexemes_bare (other : opensQuote c = false) (noComment : comment (c :: t) = none) :
    plainLexer.lexemes (c :: t) = ⟨false, [c]⟩ :: plainLexer.lexemes t := by
  have first : plainFirst ([c] ++ t) = (false, [c].length) := by
    rw [List.singleton_append, plainFirst, noComment, quotedText_other other]
    rfl
  exact lexemes_plainLexer (List.cons_ne_nil c []) first

theorem lexemes_literal (known : kind ∈ literalKinds) {body : Text}
    (closed : literalRest kind.1 kind.2 (body ++ t) = some body.length) :
    plainLexer.lexemes (kind.1 :: (body ++ t)) = ⟨false, kind.1 :: body⟩ :: plainLexer.lexemes t := by
  have first : plainFirst (kind.1 :: body ++ t) = (false, (kind.1 :: body).length) := by
    rw [List.cons_append, plainFirst, comment_kind known, quotedText_kind known, closed]
    simp [Nat.add_comm]
  exact lexemes_plainLexer (List.cons_ne_nil _ _) first

theorem lexemes_lone (known : kind ∈ literalKinds) (last : kind.1 ∉ t) :
    plainLexer.lexemes (kind.1 :: t) = ⟨false, [kind.1]⟩ :: plainLexer.lexemes t := by
  have first : plainFirst ([kind.1] ++ t) = (false, [kind.1].length) := by
    rw [List.singleton_append, plainFirst, comment_kind known, quotedText_kind known, literalRest_eq_none.mpr last]
    rfl
  exact lexemes_plainLexer (List.cons_ne_nil _ []) first

end

/-- Induction along the lexemes of a text. -/
@[elab_as_elim]
theorem lexeme_induction {motive : Text → Prop} (t : Text) (nil : motive [])
    (bare : ∀ c t, opensQuote c = false → comment (c :: t) = none → motive t → motive (c :: t))
    (literal : ∀ kind ∈ literalKinds, ∀ body t, literalRest kind.1 kind.2 (body ++ t) = some body.length →
      motive t → motive (kind.1 :: (body ++ t)))
    (lone : ∀ kind ∈ literalKinds, ∀ t, kind.1 ∉ t → motive t → motive (kind.1 :: t))
    (remark : ∀ w t, comment (w ++ t) = some w.length → motive t → motive (w ++ t)) : motive t := by
  induction size : t.length using Nat.strong_induction_on generalizing t with
  | _ size ih =>
    subst size
    cases t with
    | nil => exact nil
    | cons c rest =>
      cases found : comment (c :: rest) with
      | some n =>
        obtain ⟨two, within⟩ := within_comment found
        have whole := List.take_append_drop n (c :: rest)
        rw [← whole]
        apply remark
        · rw [whole, found, List.length_take, Nat.min_eq_left within]
        · exact ih _ (by rw [List.length_drop]; omega) _ rfl
      | none =>
        by_cases quote : opensQuote c
        · obtain ⟨kind, known, rfl⟩ := opensQuote_iff.mp quote
          cases closed : literalRest kind.1 kind.2 rest with
          | none => exact lone kind known rest (literalRest_eq_none.mp closed) (ih _ (by simp) _ rfl)
          | some n =>
            obtain ⟨_, within⟩ := within_literalRest closed
            have whole := List.take_append_drop n rest
            rw [← whole]
            apply literal kind known
            · rw [whole, closed, List.length_take, Nat.min_eq_left within]
            · exact ih _ (by simp only [List.length_drop, List.length_cons]; omega) _ rfl
        · exact bare c rest (by simpa using quote) found (ih _ (by simp) _ rfl)

/-- The lexer takes for comments what stands outside quoted text behind a comment mark: from `--` or `# `
on, the rest of the line, and from `/*` on, what there is up to the next `*/`. -/
def HeedsQuotes (lexer : Lexer) (t : Text) : Prop := lexer.withGaps t = plainLexer.withGaps t

instance (lexer : Lexer) (t : Text) : Decidable (HeedsQuotes lexer t) :=
  inferInstanceAs (Decidable (lexer.withGaps t = plainLexer.withGaps t))

end SchemaDiff.Sql
