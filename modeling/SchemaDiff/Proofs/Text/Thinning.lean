import Mathlib.Data.List.Infix
import SchemaDiff.Proofs.Text.Blank

/-
Texts with less in them. A text thins to another where stretches of it give way to blanks and its end may be
cut off. Words without blanks are in the thinner text only where they were before.
-/
namespace SchemaDiff.Text

inductive Thins : Text → Text → Prop
  | stop (t : Text) : Thins t []
  | keep (c : Char) (t u : Text) (later : Thins t u) : Thins (c :: t) (c :: u)
  | gap (w : Text) (b : Char) (t u : Text) (blank : isBlank b) (later : Thins t u) : Thins (w ++ t) (b :: u)

namespace Thins

variable {t u w : Text}

theorem append (w : Text) (thins : Thins t u) : Thins (w ++ t) (w ++ u) := by
  induction w with
  | nil => exact thins
  | cons c w ih => exact .keep c _ _ ih

theorem isPrefix (thins : Thins t u) (dark : ∀ c ∈ w, isBlank c = false) (front : w <+: u) : w <+: t := by
  induction thins generalizing w with
  | stop t =>
    rw [List.prefix_nil.mp front]
    exact List.nil_prefix
  | keep c t u later ih =>
    cases w with
    | nil => exact List.nil_prefix
    | cons d w =>
      rw [List.cons_prefix_cons] at front ⊢
      exact ⟨front.1, ih (fun e member => dark e (List.mem_cons_of_mem d member)) front.2⟩
  | gap v b t u blank later ih =>
    cases w with
    | nil => exact List.nil_prefix
    | cons d w =>
      have first := dark d List.mem_cons_self
      rw [(List.cons_prefix_cons.mp front).1, blank] at first
      contradiction

theorem isInfix (thins : Thins t u) (dark : ∀ c ∈ w, isBlank c = false) (part : w <:+: u) : w <:+: t := by
  induction thins with
  | stop t =>
    rw [List.infix_nil.mp part]
    exact List.nil_infix
  | keep c t u later ih =>
    rcases List.infix_cons_iff.mp part with front | inside
    · exact (isPrefix (.keep c t u later) dark front).isInfix
    · exact (ih inside).trans (List.infix_cons List.infix_rfl)
  | gap v b t u blank later ih =>
    rcases List.infix_cons_iff.mp part with front | inside
    · exact (isPrefix (.gap v b t u blank later) dark front).isInfix
    · exact (ih inside).trans (List.suffix_append v t).isInfix

theorem head? {c : Char} (dark : isBlank c = false) (thins : Thins t u) (first : u.head? = some c) :
    t.head? = some c := by
  obtain ⟨rest, rfl⟩ := List.head?_eq_some_iff.mp first
  have front : [c] <+: t := thins.isPrefix (by simpa using dark) (List.prefix_append [c] rest)
  obtain ⟨rest, rfl⟩ := front
  rfl

theorem count {c : Char} (dark : isBlank c = false) (thins : Thins t u) : u.count c ≤ t.count c := by
  induction thins with
  | stop t => exact Nat.zero_le _
  | keep d t u later ih =>
    rw [List.count_cons, List.count_cons]
    exact Nat.add_le_add_right ih _
  | gap v b t u blank later ih =>
    have other : b ≠ c := by
      rintro rfl
      rw [blank] at dark
      contradiction
    rw [List.count_cons_of_ne other, List.count_append]
    exact ih.trans (Nat.le_add_left _ _)

theorem not_mem {c : Char} (dark : isBlank c = false) (thins : Thins t u) (absent : c ∉ t) : c ∉ u := by
  rw [← List.count_eq_zero] at absent ⊢
  have := thins.count dark
  omega

end Thins

theorem thins_squeezeAfter (t : Text) :
    Thins t (squeezeAfter false t) ∧ ∃ w rest, t = w ++ rest ∧ Thins rest (squeezeAfter true t) := by
  induction t with
  | nil => exact ⟨.stop [], [], [], rfl, .stop []⟩
  | cons c t ih =>
    obtain ⟨whole, w, rest, split, later⟩ := ih
    rw [squeezeAfter, squeezeAfter]
    by_cases blank : isBlank c
    · rw [if_pos blank, if_pos blank]
      subst split
      exact ⟨.gap (c :: w) ' ' rest _ (by decide) later, c :: w, rest, rfl, later⟩
    · rw [if_neg blank, if_neg blank]
      exact ⟨.keep c t _ whole, [], c :: t, rfl, .keep c t _ whole⟩

theorem thins_squeeze (t : Text) : Thins t (squeeze t) := (thins_squeezeAfter t).1

theorem thins_trimEnd (t : Text) : Thins t (trimEnd t) := by
  induction t with
  | nil => exact .stop []
  | cons c t ih =>
    rw [trimEnd_cons]
    split
    · exact .stop _
    · exact .keep c t _ ih

end SchemaDiff.Text
