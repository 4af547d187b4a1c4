import SchemaDiff.Proofs.Text.Word
import SchemaDiff.Text.Case

/-
Keywords in any ASCII case. Such a spelling consists of word characters, and its capital form is the
keyword.
-/
namespace SchemaDiff.Text

/-- Whether `w` spells the keyword `k`, letter by letter in either case. -/
def InAnyCase (w k : Text) : Prop := w.map Char.toUpper = k

instance (w k : Text) : Decidable (InAnyCase w k) := inferInstanceAs (Decidable (_ = _))

def isCapital (c : Char) : Bool := ('A' ≤ c && c ≤ 'Z') || c == '_'

theorem upper_cons (c : Char) (t : Text) : upper (c :: t) = upperChar c ++ upper t := rfl

theorem upper_append (s t : Text) : upper (s ++ t) = upper s ++ upper t := List.flatMap_append

theorem toUpper_eq_of_ascii_image : ∀ n < 128, isCapital (Char.ofNat n).toUpper →
    isWord (Char.ofNat n) ∧ upperChar (Char.ofNat n) = [(Char.ofNat n).toUpper] := by
  decide +kernel

theorem ascii_of_isCapital_toUpper {c : Char} (capital : isCapital c.toUpper) : c.toNat < 128 := by
  by_cases small : 'a' ≤ c ∧ c ≤ 'z'
  · have last : c.toNat ≤ 'z'.toNat := small.2
    have : 'z'.toNat = 122 := rfl
    omega
  · have same : c.toUpper = c := dif_neg small
    rw [same] at capital
    simp only [isCapital, Bool.or_eq_true, Bool.and_eq_true, decide_eq_true_eq, beq_iff_eq] at capital
    rcases capital with ⟨_, last⟩ | rfl
    · have last : c.toNat ≤ 'Z'.toNat := last
      have : 'Z'.toNat = 90 := rfl
      omega
    · decide

theorem word_of_isCapital_toUpper {c : Char} (capital : isCapital c.toUpper) :
    isWord c ∧ upperChar c = [c.toUpper] := by
  have bound := ascii_of_isCapital_toUpper capital
  have image := toUpper_eq_of_ascii_image c.toNat bound
  rw [Char.ofNat_toNat] at image
  exact image capital

theorem isWord_of_inAnyCase {w k : Text} (spelled : InAnyCase w k) (capitals : ∀ c ∈ k, isCapital c) :
    ∀ c ∈ w, isWord c := by
  intro c member
  have image : c.toUpper ∈ k := spelled ▸ List.mem_map_of_mem member
  exact (word_of_isCapital_toUpper (capitals _ image)).1

theorem upper_of_inAnyCase {w k : Text} (spelled : InAnyCase w k) (capitals : ∀ c ∈ k, isCapital c) :
    upper w = k := by
  induction w generalizing k with
  | nil => exact spelled
  | cons c rest ih =>
    subst spelled
    have first := word_of_isCapital_toUpper (capitals c.toUpper List.mem_cons_self)
    have later := ih rfl fun d member => capitals d (List.mem_cons_of_mem _ member)
    rw [upper_cons, first.2, later]
    rfl

end SchemaDiff.Text
