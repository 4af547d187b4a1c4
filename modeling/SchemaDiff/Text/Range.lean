import SchemaDiff.Text.Basic
/- Character classes given by ranges of code points. -/
namespace SchemaDiff.Text

/-- Whether a code point lies in one of the inclusive ranges. The ranges ascend, so the search is
over at the first one that starts later. -/
def inRanges : List (Nat × Nat) → Nat → Bool
  | [], _ => false
  | (first, last) :: others, n =>
    if n < first then false else n ≤ last || inRanges others n

end SchemaDiff.Text
