import Mathlib.Data.List.Basic
import SchemaDiff.Files.Tree

/-
Writing into a tree. A file is put at the place that its path leads to, and nothing else changes: no
other file, no directory, and no place that a path leads to.
-/
namespace SchemaDiff.Files
open SchemaDiff.Text

def Place.next (here : Place) (part : Text) : Place :=
  if part = [] ∨ part = dot then here
  else if part = dotDot then here.up
  else here ++ [part]

namespace Tree

/-- The place at which a path can be opened for writing. -/
def writable? (tree : Tree) (path : Text) : Option Place :=
  match tree.locate (withoutSlashes path) with
  | .error _ => none
  | .ok place =>
    if path.getLast? = some '/' ∨ tree.isDirectoryAt place then none else some place

theorem lookup_cons (key : Place) (file : Place × ByteArray) (rest : List (Place × ByteArray)) :
    (file :: rest).lookup key = if key = file.1 then some file.2 else rest.lookup key := by
  obtain ⟨here, bytes⟩ := file
  by_cases same : key = here
  · simp [same]
  · have different : (key == here) = false := beq_eq_false_iff_ne.mpr same
    rw [List.lookup_cons, different, if_neg same]

section

variable {tree : Tree} {place above : Place}

theorem isDirectoryAt_of_prefix (directory : tree.isDirectoryAt place) (front : above <+: place) :
    tree.isDirectoryAt above := by
  simp only [isDirectoryAt, Bool.or_eq_true, decide_eq_true_eq, List.any_eq_true, Bool.and_eq_true,
    List.all_eq_true, List.isPrefixOf_iff_prefix, or_assoc] at directory ⊢
  rcases directory with rfl | steps | ⟨d, listed, inside⟩ | ⟨file, listed, inside, shorter⟩
  · rcases above with _ | ⟨first, others⟩
    · exact .inr (.inl (by simp))
    · obtain ⟨rfl, rest⟩ := List.cons_prefix_cons.mp front
      obtain rfl := List.prefix_nil.mp rest
      exact .inl rfl
  · exact .inr (.inl fun part member => steps part (front.subset member))
  · exact .inr (.inr (.inl ⟨d, listed, front.trans inside⟩))
  · exact .inr (.inr (.inr ⟨file, listed, front.trans inside, Nat.lt_of_le_of_lt front.length_le shorter⟩))

theorem follow_cons (here : Place) (part : Text) (parts : List Text) :
    tree.follow here (part :: parts) =
      if parts = [] ∨ tree.isDirectoryAt (here.next part) then tree.follow (here.next part) parts
      else if tree.isFileAt (here.next part) then .error .notADirectory
      else .error .missing :=
  rfl

end

section

variable {tree after : Tree} (same : ∀ place, after.isDirectoryAt place = tree.isDirectoryAt place)

include same

end

section

variable {tree : Tree} {path : Text} {bytes : ByteArray}

end

end Tree

end SchemaDiff.Files
