import SchemaDiff.Comparison.Report
import SchemaDiff.Proofs.Comparison.Statements

/-
The report and the plan of a comparison end with a note where there is nothing to do. A name or a label
may spell that note anywhere else in the text, so the end of the text is what tells whether it was
written: every other text ends with a statement, a record, or a number.
-/
namespace SchemaDiff
open Text Ddl

/-- The last line is ended, and its last character is `c`. -/
def EndsLine (c : Char) (t : Text) : Prop := [c, '\n'] <:+ t

instance (c : Char) (t : Text) : Decidable (EndsLine c t) :=
  inferInstanceAs (Decidable ([c, '\n'] <:+ t))

namespace EndsLine

variable {c d : Char} {s t : Text}

theorem of_suffix (ends : EndsLine c s) (suffix : s <:+ t) : EndsLine c t :=
  List.IsSuffix.trans ends suffix

theorem append (ends : EndsLine c t) (s : Text) : EndsLine c (s ++ t) :=
  ends.of_suffix (List.suffix_append s t)

theorem unique (ends : EndsLine c t) (other : EndsLine d t) : c = d := by
  obtain ⟨s, rfl⟩ := ends
  obtain ⟨s', same⟩ := other
  have last := List.append_inj_right' same rfl
  cases last
  rfl

end EndsLine

namespace Comparison

section

variable {c : Comparison} (ended : ∀ s ∈ c.statements, s.getLast? = some ';')

include ended

end

end Comparison

end SchemaDiff
