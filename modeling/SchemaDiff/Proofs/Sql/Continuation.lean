import SchemaDiff.Proofs.Sql.Outline
import SchemaDiff.Proofs.Sql.Statements

/-
Scripts one after another on lines of their own. A script that leaves no comment and no literal open has the
same comments whatever is on the lines after it, and if it also ends in a semicolon, its statements are its own.
-/
namespace SchemaDiff.Sql
open SchemaDiff.Text SchemaDiff.Text.Pattern

def ends (quote : Char) (escapes : Bool) : Text → Bool
  | [] => false
  | [c] => c == quote
  | c :: d :: rest =>
    if d = quote ∧ (c = quote ∨ (escapes ∧ c = '\\')) then ends quote escapes rest
    else c == quote || ends quote escapes (d :: rest)

/-- What the front of the text opens, be it a comment or a literal, is over before the end of the text. -/
structure Completed (t : Text) : Prop where
  comment : ['/', '*'] <+: t → ['*', '/'] <:+: t.drop 2
  literal : ∀ kind ∈ literalKinds, t.head? = some kind.1 → ends kind.1 kind.2 t.tail

instance (t : Text) : Decidable (Completed t) :=
  decidable_of_iff ((['/', '*'] <+: t → ['*', '/'] <:+: t.drop 2) ∧
      ∀ kind ∈ literalKinds, t.head? = some kind.1 → ends kind.1 kind.2 t.tail)
    ⟨fun ⟨comment, literal⟩ => ⟨comment, literal⟩, fun ⟨comment, literal⟩ => ⟨comment, literal⟩⟩

/-- Wherever a lexeme starts, what it opens is over before the end of the text. -/
def Complete (t : Text) : Prop := ∀ ls ∈ (plainLexer.lexemes t).tails, Completed (ls.flatMap Lexeme.text)

instance (t : Text) : Decidable (Complete t) :=
  inferInstanceAs (Decidable (∀ ls ∈ (plainLexer.lexemes t).tails, Completed (ls.flatMap Lexeme.text)))

theorem complete_of_lexemes {l : Lexeme} {t u : Text} (complete : Complete t)
    (cut : plainLexer.lexemes t = l :: plainLexer.lexemes u) : Completed t ∧ Complete u := by
  rw [Complete, cut, List.tails_cons, List.forall_mem_cons, ← cut, plainLexer.flatMap_text] at complete
  exact complete

/- The front of a text with a further line. -/

section

variable {t u w : Text} {n : Nat}

theorem prefix_line (absent : '\n' ∉ w) (t u : Text) : w <+: t ++ '\n' :: u ↔ w <+: t := by
  rw [← List.isPrefixOf_iff_prefix, isPrefixOf_stop absent, List.isPrefixOf_iff_prefix]

theorem literalRest_line {quote : Char} {escapes : Bool} (other : '\n' ≠ quote) (ended : ends quote escapes t)
    (u : Text) : ∃ n, literalRest quote escapes t = some n ∧ literalRest quote escapes (t ++ '\n' :: u) = some n := by
  fun_induction ends quote escapes t with
  | case1 => contradiction
  | case2 c =>
    obtain rfl : c = quote := by simpa using ended
    -- The quote is the last character, and the line feed after it does not double it.
    exact ⟨1, by simp [literalRest], by simp [literalRest, other]⟩
  | case3 c d rest pair ih =>
    obtain ⟨n, alone, followed⟩ := ih ended
    refine ⟨n + 2, ?_, ?_⟩
    · rw [literalRest, if_pos pair, alone]
    · rw [List.cons_append, List.cons_append, literalRest, if_pos pair, followed]
  | case4 c d rest single ih =>
    by_cases closing : c = quote
    · refine ⟨1, ?_, ?_⟩
      · rw [literalRest, if_neg single, if_pos closing]
      · rw [List.cons_append, List.cons_append, literalRest, if_neg single, if_pos closing]
    · have later : ends quote escapes (d :: rest) := by simpa [closing] using ended
      obtain ⟨n, alone, followed⟩ := ih later
      rw [List.cons_append] at followed
      refine ⟨n + 1, ?_, ?_⟩
      · rw [literalRest, if_neg single, if_neg closing, alone]
        rfl
      · rw [List.cons_append, List.cons_append, literalRest, if_neg single, if_neg closing, followed]
        rfl

theorem restOfLine_other {c : Char} (line : c ≠ '\n') (unix : c ≠ '\r') (rest : Text) :
    restOfLine (c :: rest) = restOfLine rest + 1 := by
  rw [restOfLine]
  · exact line
  · rintro _ rfl
    contradiction
  · exact unix

theorem restOfLine_append (unix : '\r' ∉ t) (line : '\n' ∈ t) (u : Text) :
    restOfLine (t ++ u) = restOfLine t := by
  induction t with
  | nil => simp at line
  | cons c rest ih =>
    simp only [List.mem_cons, not_or] at unix
    by_cases first : c = '\n'
    · subst first
      rfl
    · have later : '\n' ∈ rest := (List.mem_cons.mp line).resolve_left (Ne.symm first)
      rw [List.cons_append, restOfLine_other first (Ne.symm unix.1), restOfLine_other first (Ne.symm unix.1),
        ih unix.2 later]

theorem restOfLine_last (unix : '\r' ∉ t) (last : '\n' ∉ t) (u : Text) :
    restOfLine t = t.length ∧ restOfLine (t ++ '\n' :: u) = t.length + 1 := by
  induction t with
  | nil => simp [restOfLine]
  | cons c rest ih =>
    simp only [List.mem_cons, not_or] at unix last
    obtain ⟨alone, followed⟩ := ih unix.2 last.2
    rw [List.cons_append, restOfLine_other (Ne.symm last.1) (Ne.symm unix.1),
      restOfLine_other (Ne.symm last.1) (Ne.symm unix.1), alone, followed, List.length_cons]
    exact ⟨rfl, rfl⟩

theorem blockComment_append (found : blockComment t = some n) (u : Text) : blockComment (t ++ u) = some n := by
  obtain ⟨k, m, opened, closed, rfl⟩ := seq_cons_eq_some found
  rw [exactly, Option.ite_none_right_eq_some, Option.some.injEq] at opened
  obtain ⟨front, rfl⟩ := opened
  have start := List.isPrefixOf_iff_prefix.mp front
  have opened : exactly (lit "/*") (t ++ u) = some (lit "/*").length :=
    if_pos (List.isPrefixOf_iff_prefix.mpr (start.trans (List.prefix_append t u)))
  obtain ⟨i, _, ending, rest, rfl⟩ := seq_cons_eq_some closed
  obtain ⟨j, here, rfl⟩ := Option.map_eq_some_iff.mp ending
  have followed := (indexOf?_append here u).1
  obtain rfl := Option.some.inj rest
  simp only [blockComment, seq, opened, through, List.drop_append_of_le_length start.length_le, followed,
    Option.map_some]

theorem comment_of_lineMark (marked : lineMark t = some 2) : comment t = some (2 + restOfLine (t.drop 2)) := by
  have noBlock : blockComment t = none := by
    apply blockComment_eq_none.mpr
    intro block
    obtain ⟨rest, rfl⟩ := block
    rcases (lineMark_eq_some.mp marked).2 with front | front <;>
      exact absurd (List.cons_prefix_cons.mp front).1 (by decide)
  simp [comment, any, noBlock, lineComment, seq, marked]

theorem lineMark_line (marked : lineMark t = some 2) (u : Text) : lineMark (t ++ '\n' :: u) = some 2 := by
  have front := (lineMark_eq_some.mp marked).2
  exact lineMark_eq_some.mpr ⟨rfl, by rwa [prefix_line (by decide), prefix_line (by decide)]⟩

theorem comment_line (unix : '\r' ∉ t) (found : comment t = some n) (u : Text) :
    comment (t ++ '\n' :: u) = some n ∨ n = t.length ∧ comment (t ++ '\n' :: u) = some (n + 1) := by
  cases block : blockComment t with
  | some k =>
    left
    obtain rfl : k = n := by simpa [comment, any, block] using found
    simp [comment, any, blockComment_append block]
  | none =>
    have line : lineComment t = some n := by simpa [comment, any, block] using found
    obtain ⟨k, _, marked, _, _⟩ := seq_cons_eq_some line
    obtain ⟨rfl, front⟩ := lineMark_eq_some.mp marked
    have long : 2 ≤ t.length := by rcases front with front | front <;> exact front.length_le
    rw [comment_of_lineMark marked, Option.some.injEq] at found
    have unixRest : '\r' ∉ t.drop 2 := fun member => unix (List.mem_of_mem_drop member)
    rw [comment_of_lineMark (lineMark_line marked u), List.drop_append_of_le_length long]
    by_cases later : '\n' ∈ t.drop 2
    · left
      rw [restOfLine_append unixRest later, found]
    · right
      obtain ⟨alone, followed⟩ := restOfLine_last unixRest later u
      rw [alone, List.length_drop] at found
      rw [followed, List.length_drop]
      exact ⟨by omega, by rw [Option.some.injEq]; omega⟩

theorem comment_line_none {c : Char} (completed : Completed (c :: t)) (noComment : comment (c :: t) = none)
    (u : Text) : comment (c :: (t ++ '\n' :: u)) = none := by
  obtain ⟨⟨dashes, block⟩, hash⟩ := comment_eq_none.mp noComment
  rw [← List.cons_append, comment_eq_none, prefix_line (by decide)]
  refine ⟨⟨?_, ?_⟩, hash⟩
  · rwa [prefix_line (by decide)]
  · intro front
    rw [prefix_line (by decide)] at front
    exact absurd (completed.comment front) (block front)

end

/- Comments line by line. -/

def SqueezedAlike (t u : Text) : Prop := ∀ blank, squeezeAfter blank t = squeezeAfter blank u

namespace SqueezedAlike

variable {t u : Text}

theorem cons (c : Char) (alike : SqueezedAlike t u) : SqueezedAlike (c :: t) (c :: u) := by
  intro blank
  simp only [squeezeAfter, alike true, alike false]

theorem append_left (s : Text) (alike : SqueezedAlike t u) : SqueezedAlike (s ++ t) (s ++ u) := by
  induction s with
  | nil => exact alike
  | cons c rest ih => exact ih.cons c

end SqueezedAlike

theorem squeezedAlike_blanks (t : Text) : SqueezedAlike (' ' :: t) (' ' :: '\n' :: t) := by
  intro blank
  have space : isBlank ' ' := by decide
  have line : isBlank '\n' := by decide
  simp [squeezeAfter, space, line]

/-- What the comments leave of a complete text followed by further lines is what they leave of the two one
after another. -/
theorem squeezedAlike_lines {t : Text} (unix : '\r' ∉ t) (complete : Complete t) (u : Text) :
    SqueezedAlike (uncommented plainLexer (t ++ '\n' :: u))
      (uncommented plainLexer t ++ '\n' :: uncommented plainLexer u) := by
  have noComment : comment ('\n' :: u) = none := by
    apply comment_eq_none.mpr
    refine ⟨⟨?_, ?_⟩, ?_⟩ <;> exact fun front => absurd (List.cons_prefix_cons.mp front).1 (by decide)
  induction t using lexeme_induction with
  | nil =>
    rw [List.nil_append, uncommented_bare (by decide) noComment]
    exact fun _ => rfl
  | bare c t other bare ih =>
    obtain ⟨completed, later⟩ := complete_of_lexemes complete (lexemes_bare other bare)
    simp only [List.mem_cons, not_or] at unix
    rw [List.cons_append, uncommented_bare other (comment_line_none completed bare u), uncommented_bare other bare]
    exact (ih unix.2 later).cons c
  | literal kind known body t closed ih =>
    obtain ⟨completed, later⟩ := complete_of_lexemes complete (lexemes_literal known closed)
    simp only [List.mem_cons, List.mem_append, not_or] at unix
    have other : ∀ kind ∈ literalKinds, '\n' ≠ kind.1 := by decide
    obtain ⟨n, alone, followed⟩ := literalRest_line (other kind known) (completed.literal kind known rfl) u
    obtain rfl : n = body.length := Option.some.inj (alone.symm.trans closed)
    rw [List.tail_cons, List.append_assoc] at followed
    rw [List.cons_append, List.append_assoc, uncommented_literal known followed, uncommented_literal known closed,
      List.cons_append, List.append_assoc]
    exact ((ih unix.2.2 later).append_left body).cons kind.1
  | lone kind known t last ih =>
    obtain ⟨completed, _⟩ := complete_of_lexemes complete (lexemes_lone known last)
    have other : ∀ kind ∈ literalKinds, '\n' ≠ kind.1 := by decide
    obtain ⟨n, alone, _⟩ := literalRest_line (other kind known) (completed.literal kind known rfl) u
    rw [List.tail_cons, literalRest_eq_none.mpr last] at alone
    contradiction
  | remark w t found ih =>
    obtain ⟨_, later⟩ := complete_of_lexemes complete (lexemes_comment found)
    have unixRest : '\r' ∉ t := fun member => unix (List.mem_append_right w member)
    rw [uncommented_comment found]
    rcases comment_line unix found u with followed | ⟨whole, longer⟩
    · rw [List.append_assoc] at followed ⊢
      rw [uncommented_comment followed]
      exact (ih unixRest later).cons ' '
    · -- The text ends inside the comment, which takes the end of the line along.
      obtain rfl : t = [] := by simpa using whole
      have taken : comment (w ++ ['\n'] ++ u) = some (w ++ ['\n']).length := by simpa using longer
      have line : w ++ [] ++ '\n' :: u = w ++ ['\n'] ++ u := by simp
      rw [line, uncommented_comment taken]
      exact squeezedAlike_blanks _

/- Scripts on lines of their own. -/

/-- A script that leaves nothing open and ends in a semicolon, if it is not empty. -/
structure SelfContained (lexer : Lexer) (t : Text) : Prop where
  complete : Complete (afterMarks t)
  terminated : Terminated (normalize lexer t)
  closed : Closed (normalize lexer t)

theorem afterMarks_line (t u : Text) : afterMarks (t ++ '\n' :: u) = afterMarks t ++ '\n' :: u := by
  induction t with
  | nil => rfl
  | cons c rest ih =>
    by_cases mark : c = byteOrderMark
    · simpa [afterMarks, mark] using ih
    · simp [afterMarks, mark]

theorem statements_normalize_line {t u : Text} (unix : '\r' ∉ t) (alone : SelfContained plainLexer t)
    (noMark : u.head? ≠ some byteOrderMark) :
    statements (normalize plainLexer (t ++ '\n' :: u)) =
      statements (normalize plainLexer t) ++ statements (normalize plainLexer u) := by
  let body := afterMarks t
  have unixBody : '\r' ∉ body := fun member => unix ((List.dropWhile_sublist _).subset member)
  have terminated : Terminated (uncommented plainLexer body) := by
    have ending := alone.terminated
    rwa [Terminated, normalize, darkOnly_trim, squeeze, darkOnly_squeezeAfter] at ending
  have normal : normalize plainLexer t = squeeze (trim (uncommented plainLexer body)) := trim_squeeze _
  have closed : Closed (squeeze (trim (uncommented plainLexer body))) := normal ▸ alone.closed
  have alike : squeeze (uncommented plainLexer (body ++ '\n' :: u)) =
      squeeze (uncommented plainLexer body ++ '\n' :: uncommented plainLexer u) :=
    squeezedAlike_lines unixBody alone.complete u false
  rw [normal, normalize, afterMarks_line, statements_trim, normalize, afterMarks_eq_self noMark, statements_trim,
    alike, statements_squeeze_line terminated closed]

theorem lines_cons_cons (t u : Text) (texts : List Text) :
    lines (t :: u :: texts) = t ++ '\n' :: lines (u :: texts) := by
  simp [lines, List.intercalate_cons_cons]

theorem head?_lines {u : Text} (noMark : u.head? ≠ some byteOrderMark) (texts : List Text) :
    (lines (u :: texts)).head? ≠ some byteOrderMark := by
  cases texts with
  | nil => rwa [lines, List.intercalate_singleton]
  | cons v texts =>
    rw [lines_cons_cons]
    cases u with
    | nil => simp [byteOrderMark]
    | cons c rest => exact noMark

theorem statements_normalize_plain_lines {texts : List Text} (unix : ∀ t ∈ texts, '\r' ∉ t)
    (alone : ∀ t ∈ texts.dropLast, SelfContained plainLexer t)
    (noMark : ∀ t ∈ texts.tail, t.head? ≠ some byteOrderMark) :
    statements (normalize plainLexer (lines texts)) =
      texts.flatMap fun t => statements (normalize plainLexer t) := by
  induction texts with
  | nil => rfl
  | cons t others ih =>
    cases others with
    | nil => simp [lines]
    | cons u others =>
      have next := head?_lines (noMark u List.mem_cons_self) others
      have later := ih (fun v member => unix v (List.mem_cons_of_mem t member))
        (fun v member => alone v (List.mem_cons_of_mem t member))
        fun v member => noMark v (List.mem_cons_of_mem u member)
      rw [lines_cons_cons, statements_normalize_line (unix t List.mem_cons_self)
        (alone t List.mem_cons_self) next, later]
      rfl

/-- Scripts on lines of their own have the statements of one after another, if all but the last are
self-contained and none but the first begins with a further mark. -/
theorem statements_normalize_lines {lexer : Lexer} {texts : List Text} (unix : ∀ t ∈ texts, '\r' ∉ t)
    (heeds : ∀ t ∈ texts, HeedsQuotes lexer (afterMarks t))
    (heedsLines : HeedsQuotes lexer (afterMarks (lines texts)))
    (alone : ∀ t ∈ texts.dropLast, SelfContained lexer t)
    (noMark : ∀ t ∈ texts.tail, t.head? ≠ some byteOrderMark) :
    statements (normalize lexer (lines texts)) = texts.flatMap fun t => statements (normalize lexer t) := by
  have plain : ∀ t ∈ texts, normalize lexer t = normalize plainLexer t := fun t member =>
    normalize_congr (heeds t member)
  have plainAlone : ∀ t ∈ texts.dropLast, SelfContained plainLexer t := by
    intro t member
    obtain ⟨complete, terminated, closed⟩ := alone t member
    rw [plain t (List.mem_of_mem_dropLast member)] at terminated closed
    exact ⟨complete, terminated, closed⟩
  rw [normalize_congr heedsLines, statements_normalize_plain_lines unix plainAlone noMark]
  exact List.flatMap_congr fun t member => congrArg statements (plain t member).symm

end SchemaDiff.Sql
