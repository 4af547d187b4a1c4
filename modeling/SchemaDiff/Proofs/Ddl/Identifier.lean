import SchemaDiff.Ddl.Identifier
import SchemaDiff.Proofs.Sql.Split
import SchemaDiff.Proofs.Text.Pattern
import SchemaDiff.Proofs.Text.Word

/-
Written identifiers: a name between two marks, or a bare word. Reading gives the name back, whatever
follows a quoted name, and a bare word ends where no word character follows.
-/
namespace SchemaDiff.Ddl
open SchemaDiff.Text SchemaDiff.Text.Pattern SchemaDiff.Sql

inductive Identifier where
  | quoted (mark : Char) (name : Text)
  | word (name : Text)
deriving DecidableEq, Repr

namespace Identifier

def name : Identifier → Text
  | quoted _ name => name
  | word name => name

def text : Identifier → Text
  | quoted mark name => mark :: name ++ [mark]
  | word name => name

def Valid : Identifier → Prop
  | quoted mark name => (mark = '\x60' ∨ mark = '"') ∧ name ≠ [] ∧ mark ∉ name
  | word name => name ≠ [] ∧ ∀ c ∈ name, isWord c

/-- No backslash stands before the mark that ends the identifier. -/
def Unescaped : Identifier → Prop
  | quoted _ name => name.getLast? ≠ some '\\'
  | word _ => True

def Ends : Identifier → Text → Prop
  | quoted _ _, _ => True
  | word _, rest => ∀ c ∈ rest.head?, isWord c = false

instance : DecidablePred Valid
  | quoted _ _ => inferInstanceAs (Decidable (_ ∧ _))
  | word _ => inferInstanceAs (Decidable (_ ∧ _))

instance : DecidablePred Unescaped
  | quoted _ _ => inferInstanceAs (Decidable (_ ≠ _))
  | word _ => inferInstanceAs (Decidable True)

instance : ∀ identifier rest, Decidable (Ends identifier rest)
  | quoted _ _, _ => inferInstanceAs (Decidable True)
  | word _, rest => inferInstanceAs (Decidable (∀ c ∈ rest.head?, isWord c = false))

theorem ends_of_head {rest : Text} (stops : ∀ c ∈ rest.head?, isWord c = false) (identifier : Identifier) :
    identifier.Ends rest := by
  cases identifier with
  | quoted mark name => trivial
  | word name => exact stops

end Identifier

theorem cutAt_mark {mark : Char} {name : Text} (absent : mark ∉ name) (rest : Text) :
    cutAt mark (name ++ mark :: rest) = (name, some rest) := by
  have inside : ∀ c ∈ name, decide (c ≠ mark) := by
    intro c member
    have other : c ≠ mark := fun same => absent (same ▸ member)
    simpa using other
  have stops : ∀ c ∈ (mark :: rest).head?, decide (c ≠ mark) = false := by simp
  rw [cutAt, dropWhile_append_stop inside stops]
  exact congrArg (·, some rest) (takeWhile_append_stop inside stops)

theorem readIdentifier_quoted {mark : Char} {name : Text}
    (valid : (Identifier.quoted mark name).Valid) (rest : Text) :
    readIdentifier ((Identifier.quoted mark name).text ++ rest) = some (name, rest) := by
  obtain ⟨isMark, solid, absent⟩ := valid
  have shape : (Identifier.quoted mark name).text ++ rest = mark :: (name ++ mark :: rest) := by
    simp [Identifier.text]
  rw [shape, readIdentifier, if_pos isMark, readQuoted, cutAt_mark absent]
  cases name with
  | nil => contradiction
  | cons c others => rfl

theorem not_mark_of_isWord {c : Char} (word : isWord c) : ¬(c = '\x60' ∨ c = '"') := by
  rintro (rfl | rfl) <;> exact absurd word (by decide)

theorem readIdentifier_word {name : Text} (valid : (Identifier.word name).Valid) {rest : Text}
    (ends : ∀ c ∈ rest.head?, isWord c = false) :
    readIdentifier (name ++ rest) = some (name, rest) := by
  obtain ⟨solid, all⟩ := valid
  cases name with
  | nil => contradiction
  | cons c others =>
    have first := all c List.mem_cons_self
    rw [List.cons_append, readIdentifier, if_neg (not_mark_of_isWord first), if_pos first,
      ← List.cons_append, takeWhile_append_stop all ends, dropWhile_append_stop all ends]

theorem readIdentifier_text {identifier : Identifier} (valid : identifier.Valid) {rest : Text}
    (ends : identifier.Ends rest) :
    readIdentifier (identifier.text ++ rest) = some (identifier.name, rest) := by
  cases identifier with
  | quoted mark name => exact readIdentifier_quoted valid rest
  | word name => exact readIdentifier_word valid ends

theorem isPlain_of_isWord {c : Char} (word : isWord c) : isPlain c := by
  rw [isPlain_iff]
  refine ⟨?_, ?_, ?_⟩
  · by_cases quote : isQuote c
    · simp only [isQuote, Bool.or_eq_true, beq_iff_eq] at quote
      rcases quote with (rfl | rfl) | rfl <;> exact absurd word (by decide)
    · simpa using quote
  · rintro rfl
    exact absurd word (by decide)
  · rintro rfl
    exact absurd word (by decide)

theorem whole_of_isWord {parens : Parens} {isDelimiter : Char → Bool}
    (kept : ∀ c, isWord c → isDelimiter c = false) {w : Text} (all : ∀ c ∈ w, isWord c) :
    Whole parens isDelimiter w :=
  whole_plain (fun c member => isPlain_of_isWord (all c member)) fun c member => kept c (all c member)

theorem after_identifier {s : QuoteState} (closed : s.opener = none) {identifier : Identifier}
    (valid : identifier.Valid) (unescaped : identifier.Unescaped) :
    (s.after identifier.text).opener = none := by
  cases identifier with
  | quoted mark name =>
    obtain ⟨isMark, _, absent⟩ := valid
    have quote : isQuote mark := by rcases isMark with rfl | rfl <;> rfl
    exact QuoteState.after_quoted closed quote absent unescaped
  | word name =>
    exact QuoteState.after_plain closed fun c member =>
      (isPlain_iff.mp (isPlain_of_isWord (valid.2 c member))).1

theorem startsDark_identifier {identifier : Identifier} (valid : identifier.Valid) (rest : Text) :
    StartsDark (identifier.text ++ rest) := by
  cases identifier with
  | quoted mark name =>
    have dark : isBlank mark = false := by rcases valid.1 with rfl | rfl <;> rfl
    simpa [Identifier.text, StartsDark] using dark
  | word name =>
    obtain ⟨solid, all⟩ := valid
    cases name with
    | nil => contradiction
    | cons c others =>
      have dark := isBlank_of_isWord (all c List.mem_cons_self)
      simpa [Identifier.text, StartsDark] using dark

theorem endsDark_identifier {identifier : Identifier} (valid : identifier.Valid) :
    EndsDark identifier.text := by
  cases identifier with
  | quoted mark name =>
    have dark : isBlank mark = false := by rcases valid.1 with rfl | rfl <;> rfl
    simpa [Identifier.text, EndsDark, List.getLast?_cons] using dark
  | word name =>
    intro c last
    exact isBlank_of_isWord (valid.2 c (List.mem_of_getLast? last))

end SchemaDiff.Ddl
