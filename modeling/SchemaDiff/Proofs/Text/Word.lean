import SchemaDiff.Text.Blank
import SchemaDiff.Text.Word

/- Word characters against blanks: no character is both. -/
namespace SchemaDiff.Text

def codes (ranges : List (Nat × Nat)) : List Nat :=
  ranges.flatMap fun r => List.range' r.1 (r.2 + 1 - r.1)

theorem mem_codes_of_inRanges {ranges : List (Nat × Nat)} {n : Nat}
    (inside : inRanges ranges n) : n ∈ codes ranges := by
  induction ranges with
  | nil => simp [inRanges] at inside
  | cons range others ih =>
    obtain ⟨first, last⟩ := range
    simp only [inRanges] at inside
    by_cases early : n < first
    · simp [early] at inside
    · simp only [early, ↓reduceIte, Bool.or_eq_true, decide_eq_true_eq] at inside
      simp only [codes, List.flatMap_cons, List.mem_append]
      rcases inside with here | later
      · left
        rw [List.mem_range'_1]
        omega
      · exact Or.inr (ih later)

theorem no_word_blank_code : ∀ n ∈ codes blankRanges, inRanges wordRanges n = false := by
  decide +kernel

theorem isBlank_of_isWord {c : Char} (word : isWord c) : isBlank c = false := by
  by_cases blank : isBlank c
  · have := no_word_blank_code c.toNat (mem_codes_of_inRanges blank)
    exact absurd word (by simp [isWord, this])
  · simpa using blank

theorem isWord_of_isBlank {c : Char} (blank : isBlank c) : isWord c = false := by
  by_cases word : isWord c
  · rw [isBlank_of_isWord word] at blank
    contradiction
  · simpa using word

theorem beq_of_isWord {d : Char} (other : isWord d = false) {c : Char} (word : isWord c) :
    (c == d) = false := by
  have apart : c ≠ d := by
    rintro rfl
    simp [other] at word
  simpa using apart

end SchemaDiff.Text
