import Mathlib.Data.List.Basic
import Mathlib.Data.List.Induction
import Mathlib.Data.List.TakeWhile
import SchemaDiff.Files.Path
import SchemaDiff.Proofs.Files.Tree

/-
Paths below a directory. The parts of a path are the names that it was put together from, and a name put below
the path of a directory leads to the place with that name in the directory.
-/
namespace SchemaDiff.Text

theorem splitOn_eq (mark : Char) (t : Text) : splitOn mark t = List.splitOn mark t := by
  induction t with
  | nil => rfl
  | cons c rest ih =>
    obtain ⟨first, others, split⟩ := List.exists_cons_of_ne_nil (List.splitOn_ne_nil mark rest)
    rw [splitOn, List.splitOn_cons_eq_if_modifyHead, ih, split]
    simp

end SchemaDiff.Text

namespace SchemaDiff.Files
open SchemaDiff.Text

/-- A name that a file or a directory can have. -/
structure IsName (name : Text) : Prop where
  solid : name ≠ []
  noSlash : '/' ∉ name
  noNull : '\x00' ∉ name

instance (name : Text) : Decidable (IsName name) :=
  decidable_of_iff (name ≠ [] ∧ '/' ∉ name ∧ '\x00' ∉ name)
    ⟨fun ⟨solid, noSlash, noNull⟩ => ⟨solid, noSlash, noNull⟩,
      fun ⟨solid, noSlash, noNull⟩ => ⟨solid, noSlash, noNull⟩⟩

/-- What comes before the name in a path below a directory. -/
def stem (directory : Text) : Text :=
  if directory = [] ∨ directory.getLast? = some '/' then directory else directory ++ ['/']

section

variable {name directory : Text}

theorem join_eq (directory below : Text) : join directory below = stem directory ++ below := by
  rw [join, stem]
  split
  · rfl
  · rw [List.append_assoc, List.append_assoc]
    rfl

theorem last_of_isName (isName : IsName name) (t : Text) : (t ++ name).getLast? ≠ some '/' := by
  rw [List.getLast?_append_of_ne_nil _ isName.solid]
  exact fun found => isName.noSlash (List.mem_of_getLast? found)

theorem stem_of_isName (isName : IsName name) : stem name = name ++ ['/'] :=
  if_neg fun stop => stop.elim isName.solid (last_of_isName isName [])

theorem stem_nil : stem [] = [] := if_pos (.inl rfl)

theorem stem_stem (directory : Text) : stem (stem directory) = stem directory := by
  by_cases stop : directory = [] ∨ directory.getLast? = some '/'
  · have same : stem directory = directory := if_pos stop
    rw [same, same]
  · simp [stem, stop]

theorem stem_stem_append (directory t : Text) : stem (stem directory ++ t) = stem directory ++ stem t := by
  by_cases nothing : t = []
  · rw [nothing, List.append_nil, stem_stem, stem_nil, List.append_nil]
  · rw [stem, List.getLast?_append_of_ne_nil _ nothing, stem.eq_def t]
    simp only [List.append_eq_nil_iff, nothing, and_false, false_or, List.append_assoc]
    split <;> rfl

theorem join_assoc (directory t below : Text) :
    join (join directory t) below = join directory (join t below) := by
  rw [join_eq, join_eq, join_eq, join_eq, stem_stem_append, List.append_assoc]

theorem stem_concat (solid : directory ≠ []) : ∃ s, stem directory = s ++ ['/'] := by
  rw [stem]
  split
  · rename_i stop
    obtain ⟨s, shape⟩ := List.getLast?_eq_some_iff.mp (stop.resolve_left solid)
    exact ⟨s, shape⟩
  · exact ⟨directory, rfl⟩

theorem span_join (isName : IsName name) (solid : directory ≠ []) :
    (join directory name).reverse.takeWhile (· ≠ '/') = name.reverse ∧
      (join directory name).reverse.dropWhile (· ≠ '/') = (stem directory).reverse := by
  obtain ⟨s, ending⟩ := stem_concat solid
  have inside : ∀ c ∈ name.reverse, decide (c ≠ '/') := by
    intro c member
    rw [List.mem_reverse] at member
    exact decide_eq_true fun same => isName.noSlash (same ▸ member)
  rw [join_eq, ending, List.reverse_append, List.takeWhile_append_of_pos inside,
    List.dropWhile_append_of_pos inside]
  simp

theorem lastPart_join (isName : IsName name) (solid : directory ≠ []) : lastPart (join directory name) = name := by
  rw [lastPart, (span_join isName solid).1, List.reverse_reverse]

theorem parentPart_join (isName : IsName name) (solid : directory ≠ []) :
    parentPart (join directory name) = Tree.withoutSlashes directory := by
  rw [parentPart, (span_join isName solid).2, Tree.withoutSlashes, stem]
  by_cases stop : directory = [] ∨ directory.getLast? = some '/'
  · rw [if_pos stop]
    cases directory.reverse.dropWhile (· = '/') with
    | nil => exact List.reverse_reverse directory
    | cons c kept => rfl
  · obtain ⟨_, other⟩ := not_or.mp stop
    obtain ⟨front, c, rfl⟩ := List.eq_nil_or_concat directory |>.resolve_left solid
    have dark : c ≠ '/' := by simpa using other
    rw [if_neg stop]
    simp [dark]

theorem withoutSlashes_join (isName : IsName name) (directory : Text) :
    Tree.withoutSlashes (join directory name) = join directory name := by
  have last : (join directory name).getLast? ≠ some '/' := by
    rw [join_eq]
    exact last_of_isName isName _
  obtain ⟨front, c, shape⟩ := List.eq_nil_or_concat (join directory name) |>.resolve_left fun nothing => by
    rw [join_eq] at nothing
    exact isName.solid (List.append_eq_nil_iff.mp nothing).2
  rw [shape] at last ⊢
  have dark : c ≠ '/' := by simpa using last
  simp [Tree.withoutSlashes, dark]

variable {parts : List Text}

theorem intercalate_cons (isName : IsName name) (solid : parts ≠ []) :
    ['/'].intercalate (name :: parts) = join name (['/'].intercalate parts) := by
  obtain ⟨first, others, rfl⟩ := List.exists_cons_of_ne_nil solid
  rw [join_eq, stem_of_isName isName, List.intercalate_cons_cons]

theorem intercalate_concat (isNames : ∀ part ∈ parts, IsName part) (name : Text) :
    ['/'].intercalate (parts ++ [name]) = join (['/'].intercalate parts) name := by
  have alone : join [] name = name := by rw [join_eq, stem_nil, List.nil_append]
  induction parts with
  | nil => rw [List.nil_append, List.intercalate_singleton, List.intercalate_nil, alone]
  | cons first others ih =>
    obtain ⟨isName, isNames⟩ := List.forall_mem_cons.mp isNames
    rw [List.cons_append, intercalate_cons isName (by simp), ih isNames]
    by_cases last : others = []
    · rw [last, List.intercalate_nil, alone, List.intercalate_singleton]
    · rw [intercalate_cons isName last, join_assoc]

theorem withoutSlashes_isPrefix (path : Text) : Tree.withoutSlashes path <+: path := by
  rw [Tree.withoutSlashes]
  cases found : path.reverse.dropWhile (· = '/') with
  | nil => exact List.prefix_rfl
  | cons c kept =>
    rw [← List.reverse_suffix, List.reverse_reverse, ← found]
    exact List.dropWhile_suffix _

end

/- Places below a place. -/

namespace Tree

variable {tree : Tree} {place : Place} {path name : Text} {parts : List Text}

theorem follow_append {others : List Text} {here : Place} (reached : tree.follow here parts = .ok place)
    (directory : tree.isDirectoryAt place) :
    tree.follow here (parts ++ others) = tree.follow place others := by
  induction parts generalizing here with
  | nil =>
    cases reached
    rfl
  | cons part parts ih =>
    rw [follow_cons] at reached
    rw [List.cons_append, follow_cons]
    by_cases last : parts = []
    · subst last
      obtain rfl : here.next part = place := by simpa [follow] using reached
      rw [List.nil_append, if_pos (.inr directory)]
    · by_cases onward : tree.isDirectoryAt (here.next part)
      · rw [if_pos (.inr onward)] at reached ⊢
        exact ih reached
      · rw [if_neg (by simp [last, onward])] at reached
        split at reached <;> contradiction

theorem follow_concat_nil {here : Place} (solid : parts ≠ []) (reached : tree.follow here (parts ++ [[]]) = .ok place) :
    tree.follow here parts = .ok place := by
  induction parts generalizing here with
  | nil => contradiction
  | cons part parts ih =>
    rw [List.cons_append, follow_cons] at reached
    rw [follow_cons]
    by_cases onward : tree.isDirectoryAt (here.next part)
    · rw [if_pos (.inr onward)] at reached ⊢
      by_cases last : parts = []
      · subst last
        exact reached
      · exact ih last reached
    · rw [if_neg (by simp [onward])] at reached
      split at reached <;> contradiction

theorem locate_eq (noNull : '\x00' ∉ path) (solid : path ≠ []) :
    tree.locate path = tree.follow (if path.head? = some '/' then root else []) (List.splitOn '/' path) := by
  rw [locate, if_neg (by simpa using noNull), if_neg solid, splitOn_eq]

theorem noNull_of_locate (reached : tree.locate path = .ok place) : '\x00' ∉ path := by
  intro null
  simp [locate, null] at reached

theorem solid_of_locate (reached : tree.locate path = .ok place) : path ≠ [] := by
  rintro rfl
  simp [locate] at reached

theorem locate_slash (solid : path ≠ []) (reached : tree.locate (path ++ ['/']) = .ok place) :
    tree.locate path = .ok place := by
  have noNull := noNull_of_locate reached
  rw [locate_eq noNull (solid_of_locate reached), List.splitOn_append_cons_self,
    List.head?_append_of_ne_nil _ solid] at reached
  rw [locate_eq (fun member => noNull (List.mem_append_left _ member)) solid]
  exact follow_concat_nil (List.splitOn_ne_nil _ _) reached

theorem locate_slashes {slashes : Text} (all : ∀ c ∈ slashes, c = '/') (solid : path ≠ [])
    (reached : tree.locate (path ++ slashes) = .ok place) : tree.locate path = .ok place := by
  induction slashes using List.reverseRecOn with
  | nil => rwa [List.append_nil] at reached
  | append_singleton others c ih =>
    obtain rfl : c = '/' := all c (by simp)
    rw [← List.append_assoc] at reached
    have before := locate_slash (fun nothing => solid (List.append_eq_nil_iff.mp nothing).1) reached
    exact ih (fun d member => all d (List.mem_append_left _ member)) before

theorem locate_withoutSlashes (reached : tree.locate path = .ok place) :
    tree.locate (withoutSlashes path) = .ok place := by
  rw [withoutSlashes]
  cases found : path.reverse.dropWhile (· = '/') with
  | nil => exact reached
  | cons c kept =>
    have whole : path = (c :: kept).reverse ++ (path.reverse.takeWhile (· = '/')).reverse := by
      rw [← List.reverse_append, ← found, List.takeWhile_append_dropWhile, List.reverse_reverse]
    rw [whole] at reached
    refine locate_slashes ?_ (by simp) reached
    intro c member
    rw [List.mem_reverse] at member
    simpa using List.mem_takeWhile_imp member

theorem locate_join {part : Text} (reached : tree.locate path = .ok place) (directory : tree.isDirectoryAt place)
    (noSlash : '/' ∉ part) (noNull : '\x00' ∉ part) :
    tree.locate (join path part) = tree.follow place [part] := by
  have nullFree := noNull_of_locate reached
  have solid := solid_of_locate reached
  rw [locate_eq nullFree solid] at reached
  obtain ⟨c, others, shape⟩ := List.exists_cons_of_ne_nil solid
  have front : (join path part).head? = path.head? := by
    rw [join_eq, stem, shape]
    split <;> rfl
  have nullFreeJoin : '\x00' ∉ join path part := by
    rw [join]
    split <;> simp [nullFree, noNull, lit]
  have solidJoin : join path part ≠ [] := by
    intro nothing
    rw [nothing, shape] at front
    contradiction
  rw [locate_eq nullFreeJoin solidJoin, front]
  by_cases stop : path.getLast? = some '/'
  · obtain ⟨before, whole⟩ := List.getLast?_eq_some_iff.mp stop
    have ending : List.splitOn '/' path = List.splitOn '/' before ++ [[]] := by
      rw [whole, List.splitOn_append_cons_self]
      rfl
    have joined : join path part = before ++ '/' :: part := by
      rw [join, if_pos (.inr stop), whole, List.append_assoc, List.singleton_append]
    rw [ending] at reached
    rw [joined, List.splitOn_append_cons_self, List.splitOn_eq_singleton noSlash]
    exact follow_append (follow_concat_nil (List.splitOn_ne_nil _ _) reached) directory
  · have parts : List.splitOn '/' (join path part) = List.splitOn '/' path ++ [part] := by
      rw [join, if_neg (by simp [solid, stop]), List.append_assoc]
      change List.splitOn '/' (path ++ '/' :: part) = _
      rw [List.splitOn_append_cons_self, List.splitOn_eq_singleton noSlash]
    rw [parts, follow_append reached directory]

end Tree

end SchemaDiff.Files
