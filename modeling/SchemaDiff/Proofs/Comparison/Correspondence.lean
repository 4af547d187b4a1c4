import Mathlib.Data.List.Forall2
import Mathlib.Data.List.Perm.Basic
import SchemaDiff.Proofs.Comparison.Gathering
import SchemaDiff.Proofs.Comparison.Matching

/-
Two comparisons side by side. Where the tables of their schemas correspond one by one and keep their
names, so do the tables that the comparisons match, and those that they do not.
-/
namespace SchemaDiff
open Text

section

variable {α β γ : Type} {R : α → β → Prop} {xs : List α} {ys : List β}

theorem forall₂_iff_map_eq {f : α → γ} {g : β → γ} :
    List.Forall₂ (fun x y => f x = g y) xs ys ↔ xs.map f = ys.map g := by
  rw [← List.forall₂_eq_eq_eq, List.forall₂_map_left_iff, List.forall₂_map_right_iff]

theorem map_eq_of_forall₂ {f : α → γ} {g : β → γ} (alike : ∀ x y, R x y → f x = g y)
    (all : List.Forall₂ R xs ys) : xs.map f = ys.map g :=
  forall₂_iff_map_eq.mp (all.imp alike)

theorem find?_of_forall₂ {p : α → Bool} {q : β → Bool} (alike : ∀ x y, R x y → p x = q y)
    (all : List.Forall₂ R xs ys) : Option.Rel R (xs.find? p) (ys.find? q) := by
  induction all with
  | nil => exact .none
  | @cons x y xs ys first _ ih =>
    rw [List.find?_cons, List.find?_cons, alike x y first]
    cases q y
    · exact ih
    · exact .some first

theorem filter_of_forall₂ {p : α → Bool} {q : β → Bool} (alike : ∀ x y, R x y → p x = q y)
    (all : List.Forall₂ R xs ys) : List.Forall₂ R (xs.filter p) (ys.filter q) :=
  List.rel_filter (fun x y related => Bool.eq_iff_iff.mp (alike x y related)) all

theorem perm_flatMap_of_forall₂ {f : α → List γ} {g : β → List γ}
    (alike : ∀ x y, R x y → (f x).Perm (g y)) (all : List.Forall₂ R xs ys) :
    (xs.flatMap f).Perm (ys.flatMap g) := by
  induction all with
  | nil => exact List.Perm.refl []
  | cons first _ ih =>
    rw [List.flatMap_cons, List.flatMap_cons]
    exact (alike _ _ first).append ih

theorem forall₂_gather {key : α → Text} {key' : β → Text} (keyed : ∀ x y, R x y → key x = key' y)
    (all : List.Forall₂ R xs ys) :
    List.Forall₂ (fun group group' => group.1 = group'.1 ∧ List.Forall₂ R group.2 group'.2)
      (gather key xs) (gather key' ys) := by
  rw [gather, gather, map_eq_of_forall₂ keyed all, List.forall₂_map_left_iff,
    List.forall₂_map_right_iff, List.forall₂_same]
  intro k _
  exact ⟨rfl, filter_of_forall₂ (fun x y related => by rw [keyed x y related]) all⟩

end

section

variable {α : Type} {R : α → α → Prop} {name : α → Text}
  (named : ∀ x x', R x x' → name x = name x') {xs xs' ys ys' : List α}

include named

theorem find?_name_of_forall₂ (others : List.Forall₂ R ys ys') (n : Text) :
    Option.Rel R (ys.find? fun y => lower (name y) == lower n)
      (ys'.find? fun y => lower (name y) == lower n) :=
  find?_of_forall₂ (fun y y' related => by rw [named y y' related]) others

theorem lacking_of_forall₂ (items : List.Forall₂ R xs xs') (others : List.Forall₂ R ys ys') :
    List.Forall₂ R (xs.filter fun x => (ys.find? fun y => lower (name y) == lower (name x)).isNone)
      (xs'.filter fun x => (ys'.find? fun y => lower (name y) == lower (name x)).isNone) := by
  refine filter_of_forall₂ (fun x x' related => ?_) items
  have found := find?_name_of_forall₂ named others (name x)
  rw [← named x x' related]
  generalize ys.find? _ = first, ys'.find? _ = second at found
  cases found <;> rfl

end

def SamePair (R : Table → Table → Prop) (pair pair' : Table × Table) : Prop :=
  R pair.1 pair'.1 ∧ R pair.2 pair'.2

namespace Schema

variable {a a' b b' : Schema} {R : Table → Table → Prop}
  (named : ∀ t t', R t t' → t.name = t'.name)
  (source : List.Forall₂ R a.tables a'.tables) (target : List.Forall₂ R b.tables b'.tables)

include named source target

theorem forall₂_unmatched : List.Forall₂ R (a.unmatched b) (a'.unmatched b') :=
  lacking_of_forall₂ named source target

theorem forall₂_matched : List.Forall₂ (SamePair R) (a.matched b) (a'.matched b') := by
  refine List.rel_filterMap (fun t t' related => ?_) source
  have found : Option.Rel R (b.find? t.name) (b'.find? t.name) :=
    find?_name_of_forall₂ named target t.name
  rw [← named t t' related]
  generalize b.find? t.name = first, b'.find? t.name = second at found
  cases found with
  | none => exact .none
  | some matched => exact .some ⟨related, matched⟩

end Schema

end SchemaDiff
