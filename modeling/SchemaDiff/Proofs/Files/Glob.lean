import Mathlib.Data.List.Nodup
import Mathlib.Data.List.Sort
import SchemaDiff.Files.Glob
import SchemaDiff.Proofs.Files.Path

/-
The scripts below a directory. If the path of the directory has no wildcard in it, the pattern for scripts leads
to each `.sql` file at any depth once, unless its name or one on the way to it begins with a point.
-/
namespace SchemaDiff.Text

theorem comesFirst_cons {c d : Char} {s t : Text} :
    comesFirst (c :: s) (d :: t) ↔ c.toNat < d.toNat ∨ c = d ∧ comesFirst s t := by
  by_cases same : c = d
  · simp [comesFirst, same]
  · simp [comesFirst, same]

theorem comesFirst_trans {s t u : Text} (first : comesFirst s t) (second : comesFirst t u) :
    comesFirst s u := by
  induction s generalizing t u with
  | nil => rfl
  | cons c s ih =>
    rcases t with _ | ⟨d, t⟩
    · contradiction
    rcases u with _ | ⟨e, u⟩
    · contradiction
    rw [comesFirst_cons] at first second ⊢
    rcases first with less | ⟨rfl, first⟩
    · rcases second with more | ⟨rfl, _⟩
      · exact .inl (by omega)
      · exact .inl less
    · rcases second with more | ⟨rfl, second⟩
      · exact .inl more
      · exact .inr ⟨rfl, ih first second⟩

theorem comesFirst_total (s t : Text) : comesFirst s t ∨ comesFirst t s := by
  induction s generalizing t with
  | nil => exact .inl rfl
  | cons c s ih =>
    rcases t with _ | ⟨d, t⟩
    · exact .inr rfl
    rw [comesFirst_cons, comesFirst_cons]
    by_cases same : c = d
    · subst same
      rcases ih t with before | after
      · exact .inl (.inr ⟨rfl, before⟩)
      · exact .inr (.inr ⟨rfl, after⟩)
    · have apart : c.toNat ≠ d.toNat := fun equal => same (Char.toNat_inj.mp equal)
      rcases Nat.lt_or_gt_of_ne apart with before | after
      · exact .inl (.inl before)
      · exact .inr (.inl after)

theorem comesFirst_antisymm {s t : Text} (first : comesFirst s t) (second : comesFirst t s) : s = t := by
  induction s generalizing t with
  | nil =>
    cases t with
    | nil => rfl
    | cons d t => contradiction
  | cons c s ih =>
    rcases t with _ | ⟨d, t⟩
    · contradiction
    rw [comesFirst_cons] at first second
    rcases first with less | ⟨rfl, first⟩
    · rcases second with more | ⟨rfl, _⟩ <;> omega
    · rcases second with more | ⟨_, second⟩
      · omega
      · rw [ih first second]

theorem pairwise_mergeSort (texts : List Text) :
    (texts.mergeSort comesFirst).Pairwise fun s t => comesFirst s t := by
  have trans (s t u : Text) : comesFirst s t → comesFirst t u → comesFirst s u := comesFirst_trans
  have total (s t : Text) : comesFirst s t || comesFirst t s := by simpa using comesFirst_total s t
  exact List.pairwise_mergeSort trans total _

theorem mergeSort_congr {s t : List Text} (perm : s.Perm t) : s.mergeSort comesFirst = t.mergeSort comesFirst :=
  List.Perm.eq_of_pairwise (fun _ _ _ _ => comesFirst_antisymm) (pairwise_mergeSort s) (pairwise_mergeSort t)
    ((List.mergeSort_perm s comesFirst).trans (perm.trans (List.mergeSort_perm t comesFirst).symm))

theorem nodup_eraseDups (texts : List Text) : texts.eraseDups.Nodup := by
  induction known : texts.length using Nat.strongRecOn generalizing texts with
  | ind n ih =>
    cases texts with
    | nil => exact List.nodup_nil
    | cons t others =>
      have shorter := List.length_filter_le (fun u => !u == t) others
      rw [List.length_cons] at known
      rw [List.eraseDups_cons, List.nodup_cons]
      exact ⟨by simp, ih _ (by omega) _ rfl⟩

end SchemaDiff.Text

namespace SchemaDiff.Files
open SchemaDiff.Text

/- What patterns stand for. -/

theorem accept_exactly_cons (c d : Char) (ws : List Wildcard) (name : Text) :
    Wildcard.accept (.exactly c :: ws) (d :: name) = (d == c && Wildcard.accept ws name) := by
  rw [Wildcard.accept]
  · rfl
  · simp
  · simp

theorem accept_exactly (t name : Text) : Wildcard.accept (t.map Wildcard.exactly) name ↔ name = t := by
  induction t generalizing name with
  | nil =>
    rw [List.map_nil, Wildcard.accept]
    exact List.isEmpty_iff
  | cons c rest ih =>
    cases name with
    | nil =>
      rw [List.map_cons, Wildcard.accept]
      · simp
      · simp
      · simp
    | cons d others =>
      rw [List.map_cons, accept_exactly_cons, Bool.and_eq_true, ih, beq_iff_eq, List.cons.injEq]

theorem accept_anyCharacters {ws : List Wildcard} (solid : ws ≠ []) (name : Text) :
    Wildcard.accept (.anyCharacters :: ws) name ↔ ∃ rest, rest <:+ name ∧ Wildcard.accept ws rest := by
  induction name with
  | nil =>
    rw [Wildcard.accept]
    · simp
    · exact solid
  | cons c others ih =>
    rw [Wildcard.accept, Bool.or_eq_true, ih]
    · constructor
      · rintro (here | ⟨rest, inside, accepted⟩)
        · exact ⟨c :: others, List.suffix_rfl, here⟩
        · exact ⟨rest, inside.trans (List.suffix_cons c others), accepted⟩
      · rintro ⟨rest, inside, accepted⟩
        rcases List.suffix_cons_iff.mp inside with rfl | later
        · exact .inl accepted
        · exact .inr ⟨rest, later, accepted⟩
    · exact solid

theorem wildcards_scripts :
    wildcards "*.sql" = .anyCharacters :: (lit ".sql").map Wildcard.exactly := by
  simp [wildcards, lit]

theorem matchesPart_scripts (name : Text) : matchesPart "*.sql" name ↔ isHidden name = false ∧ lit ".sql" <:+ name := by
  have plain : isHidden (lit "*.sql") = false := by decide
  rw [matchesPart, wildcards_scripts, Bool.and_eq_true, accept_anyCharacters (by decide)]
  simp [accept_exactly, plain]

/- The names in a tree. -/

namespace Tree

def places (tree : Tree) : List Place := tree.files.map Prod.fst ++ tree.directories

/-- Each name is one that a file can have, and no file is listed twice or is a directory as well. -/
structure WellFormed (tree : Tree) : Prop where
  names : ∀ place ∈ tree.places, ∀ name ∈ place, name = slash ∨ IsName name
  once : (tree.files.map Prod.fst).Nodup
  apart : ∀ file ∈ tree.files, ¬tree.isDirectoryAt file.1

instance (tree : Tree) : Decidable tree.WellFormed :=
  decidable_of_iff
    ((∀ place ∈ tree.places, ∀ name ∈ place, name = slash ∨ IsName name) ∧ (tree.files.map Prod.fst).Nodup ∧
      ∀ file ∈ tree.files, ¬tree.isDirectoryAt file.1)
    ⟨fun ⟨names, once, apart⟩ => ⟨names, once, apart⟩, fun ⟨names, once, apart⟩ => ⟨names, once, apart⟩⟩

end Tree

/-- A name that no pattern passes over. -/
structure Shown (name : Text) : Prop extends IsName name where
  visible : isHidden name = false

instance (name : Text) : Decidable (Shown name) :=
  decidable_of_iff (IsName name ∧ isHidden name = false)
    ⟨fun ⟨isName, visible⟩ => ⟨isName, visible⟩, fun shown => ⟨shown.toIsName, shown.visible⟩⟩

namespace Shown

variable {name : Text}

theorem ne_slash (shown : Shown name) : name ≠ slash := by
  rintro rfl
  exact shown.noSlash (by decide)

theorem ne_dot (shown : Shown name) : name ≠ dot := by
  rintro rfl
  exact absurd shown.visible (by decide)

theorem ne_dotDot (shown : Shown name) : name ≠ dotDot := by
  rintro rfl
  exact absurd shown.visible (by decide)

end Shown

namespace Tree

variable {tree : Tree} {place : Place} {path name : Text}

theorem isFileAt_iff : tree.isFileAt place ↔ place ∈ tree.files.map Prod.fst := by
  rw [isFileAt, content?, Option.isSome_iff_ne_none, ne_eq, List.lookup_eq_none_iff]
  simp

theorem mem_names : name ∈ tree.names place ↔
    name ≠ slash ∧ name ≠ dotDot ∧ ∃ rest, place ++ name :: rest ∈ tree.places := by
  have below (p : Place) : (if place.isPrefixOf p then p[place.length]? else none) = some name ↔
      ∃ rest, place ++ name :: rest = p := by
    rw [Option.ite_none_right_eq_some, List.isPrefixOf_iff_prefix]
    constructor
    · rintro ⟨⟨rest, rfl⟩, found⟩
      rw [List.getElem?_append_right (Nat.le_refl _), Nat.sub_self] at found
      obtain ⟨others, rfl⟩ := List.head?_eq_some_iff.mp (List.head?_eq_getElem? ▸ found)
      exact ⟨others, rfl⟩
    · rintro ⟨rest, rfl⟩
      exact ⟨List.prefix_append _ _, by simp⟩
  simp only [names, List.mem_eraseDups, List.mem_filter, List.mem_filterMap, below, decide_eq_true_eq, places]
  constructor
  · rintro ⟨⟨p, member, rest, rfl⟩, other, noStep⟩
    exact ⟨other, noStep, rest, member⟩
  · rintro ⟨other, noStep, rest, member⟩
    exact ⟨⟨_, member, rest, rfl⟩, other, noStep⟩

theorem shown_of_mem_names (wellFormed : tree.WellFormed) (member : name ∈ tree.names place)
    (visible : isHidden name = false) : Shown name := by
  obtain ⟨other, _, rest, listed⟩ := mem_names.mp member
  exact ⟨(wellFormed.names _ listed name (by simp)).resolve_left other, visible⟩

theorem isDirectoryAt_of_mem_places {rest : List Text} (solid : rest ≠ []) (member : place ++ rest ∈ tree.places) :
    tree.isDirectoryAt place := by
  simp only [isDirectoryAt, Bool.or_eq_true, List.any_eq_true, Bool.and_eq_true, decide_eq_true_eq,
    List.isPrefixOf_iff_prefix]
  rcases List.mem_append.mp member with file | folder
  · obtain ⟨⟨p, bytes⟩, listed, rfl⟩ := List.mem_map.mp file
    have longer : 0 < rest.length := List.length_pos_iff.mpr solid
    exact .inr ⟨_, listed, List.prefix_append _ _, by simp; omega⟩
  · exact .inl (.inr ⟨_, folder, List.prefix_append _ _⟩)

theorem mem_names_of_isDirectoryAt (shown : Shown name) (directory : tree.isDirectoryAt (place ++ [name])) :
    name ∈ tree.names place := by
  refine mem_names.mpr ⟨shown.ne_slash, shown.ne_dotDot, ?_⟩
  simp only [isDirectoryAt, Bool.or_eq_true, List.any_eq_true, Bool.and_eq_true, decide_eq_true_eq,
    List.isPrefixOf_iff_prefix, List.all_eq_true, or_assoc] at directory
  rcases directory with same | steps | ⟨folder, listed, rest, rfl⟩ | ⟨⟨p, bytes⟩, listed, ⟨rest, rfl⟩, _⟩
  · have inside : name ∈ root := same ▸ List.mem_append_right place List.mem_cons_self
    exact absurd (List.mem_singleton.mp inside) shown.ne_slash
  · exact absurd (steps name (by simp)) shown.ne_dotDot
  · exact ⟨rest, List.mem_append_right _ (by simpa using listed)⟩
  · exact ⟨rest, List.mem_append_left _ (List.mem_map.mpr ⟨_, listed, by simp⟩)⟩

theorem mem_names_iff (shown : Shown name) : name ∈ tree.names place ↔
    tree.isFileAt (place ++ [name]) ∨ tree.isDirectoryAt (place ++ [name]) := by
  constructor
  · intro member
    obtain ⟨_, _, rest, listed⟩ := mem_names.mp member
    cases rest with
    | nil =>
      rcases List.mem_append.mp listed with file | folder
      · exact .inl (isFileAt_iff.mpr file)
      · right
        simp only [isDirectoryAt, Bool.or_eq_true, List.any_eq_true, List.isPrefixOf_iff_prefix]
        exact .inl (.inr ⟨_, folder, List.prefix_rfl⟩)
    | cons next others =>
      right
      apply isDirectoryAt_of_mem_places (List.cons_ne_nil next others)
      rwa [List.append_assoc]
  · rintro (file | directory)
    · exact mem_names.mpr ⟨shown.ne_slash, shown.ne_dotDot, [], List.mem_append_left _ (isFileAt_iff.mp file)⟩
    · exact mem_names_of_isDirectoryAt shown directory

theorem follow_shown (shown : Shown name) : tree.follow place [name] = .ok (place ++ [name]) := by
  rw [follow_cons, if_pos (.inl rfl), Place.next, if_neg (by simp [shown.solid, shown.ne_dot]),
    if_neg shown.ne_dotDot]
  rfl

theorem locate_join_shown (reached : tree.locate path = .ok place) (directory : tree.isDirectoryAt place)
    (shown : Shown name) : tree.locate (join path name) = .ok (place ++ [name]) := by
  rw [locate_join reached directory shown.noSlash shown.noNull, follow_shown shown]

theorem list_of_locate (reached : tree.locate path = .ok place) : tree.list path = tree.names place := by
  rw [list, if_neg (solid_of_locate reached), reached]

theorem isDirectory_of_locate (reached : tree.locate path = .ok place) :
    tree.isDirectory path = tree.isDirectoryAt place := by
  rw [isDirectory, reached]

theorem length_le_depth (member : place ∈ tree.places) : place.length ≤ tree.depth := by
  have bound (ns : List Nat) (start : Nat) : start ≤ ns.foldl max start ∧ ∀ n ∈ ns, n ≤ ns.foldl max start := by
    induction ns generalizing start with
    | nil => simp
    | cons n ns ih =>
      obtain ⟨first, others⟩ := ih (max start n)
      rw [List.foldl_cons, List.forall_mem_cons]
      exact ⟨by omega, by omega, others⟩
  exact (bound _ 0).2 _ (List.mem_map.mpr ⟨place, member, rfl⟩)

end Tree

/- What lies below a directory. -/

def foldersBelow (tree : Tree) (place : Place) : Nat → List (List Text)
  | 0 => []
  | fuel + 1 =>
    (tree.names place).flatMap fun name =>
      if isHidden name ∨ !tree.isDirectoryAt (place ++ [name]) then []
      else [name] :: (foldersBelow tree (place ++ [name]) fuel).map (name :: ·)

section

variable {tree : Tree} {place : Place} {path name : Text} {parts : List Text} {fuel : Nat}

theorem mem_foldersBelow_succ : parts ∈ foldersBelow tree place (fuel + 1) ↔
    ∃ name others, parts = name :: others ∧ name ∈ tree.names place ∧ isHidden name = false ∧
      tree.isDirectoryAt (place ++ [name]) ∧
      (others = [] ∨ others ∈ foldersBelow tree (place ++ [name]) fuel) := by
  simp only [foldersBelow, List.mem_flatMap]
  constructor
  · rintro ⟨name, member, inside⟩
    split at inside
    · contradiction
    · rename_i entered
      rw [not_or, Bool.not_eq_true, Bool.not_eq_true, Bool.not_eq_false'] at entered
      rcases List.mem_cons.mp inside with rfl | later
      · exact ⟨name, [], rfl, member, entered.1, entered.2, .inl rfl⟩
      · obtain ⟨others, below, rfl⟩ := List.mem_map.mp later
        exact ⟨name, others, rfl, member, entered.1, entered.2, .inr below⟩
  · rintro ⟨name, others, rfl, member, visible, directory, below⟩
    refine ⟨name, member, ?_⟩
    rw [if_neg (by simp [visible, directory])]
    rcases below with rfl | below
    · exact List.mem_cons_self
    · exact List.mem_cons_of_mem _ (List.mem_map.mpr ⟨others, below, rfl⟩)

theorem mem_foldersBelow (wellFormed : tree.WellFormed) : parts ∈ foldersBelow tree place fuel ↔
    parts ≠ [] ∧ parts.length ≤ fuel ∧ (∀ part ∈ parts, Shown part) ∧ tree.isDirectoryAt (place ++ parts) := by
  induction fuel generalizing place parts with
  | zero =>
    constructor
    · exact fun member => absurd member List.not_mem_nil
    · rintro ⟨solid, short, _⟩
      exact absurd (List.length_eq_zero_iff.mp (Nat.le_zero.mp short)) solid
  | succ fuel ih =>
    rw [mem_foldersBelow_succ]
    constructor
    · rintro ⟨name, others, rfl, member, visible, directory, below⟩
      have shown := Tree.shown_of_mem_names wellFormed member visible
      rcases below with rfl | below
      · exact ⟨List.cons_ne_nil _ _, by simp, by simpa using shown, directory⟩
      · obtain ⟨_, short, shownBelow, inside⟩ := ih.mp below
        exact ⟨List.cons_ne_nil _ _, by simpa using short, List.forall_mem_cons.mpr ⟨shown, shownBelow⟩,
          by simpa using inside⟩
    · rintro ⟨solid, short, allShown, directory⟩
      obtain ⟨name, others, rfl⟩ := List.exists_cons_of_ne_nil solid
      obtain ⟨shown, shownBelow⟩ := List.forall_mem_cons.mp allShown
      have whole : place ++ name :: others = place ++ [name] ++ others := by simp
      rw [whole] at directory
      have above := Tree.isDirectoryAt_of_prefix directory (List.prefix_append _ _)
      refine ⟨name, others, rfl, Tree.mem_names_of_isDirectoryAt shown above, shown.visible, above, ?_⟩
      by_cases last : others = []
      · exact .inl last
      · exact .inr (ih.mpr ⟨last, by simpa using short, shownBelow, directory⟩)

theorem mem_foldersBelow_depth (wellFormed : tree.WellFormed) :
    parts ∈ foldersBelow tree place (tree.depth + 1) ↔
      parts ≠ [] ∧ (∀ part ∈ parts, Shown part) ∧ tree.isDirectoryAt (place ++ parts) := by
  rw [mem_foldersBelow wellFormed]
  constructor
  · rintro ⟨solid, _, shown, directory⟩
    exact ⟨solid, shown, directory⟩
  · rintro ⟨solid, shown, directory⟩
    obtain ⟨above, name, rfl⟩ := (List.eq_nil_or_concat' parts).resolve_left solid
    rw [← List.append_assoc] at directory
    obtain ⟨_, _, rest, listed⟩ :=
      Tree.mem_names.mp (Tree.mem_names_of_isDirectoryAt (shown name (by simp)) directory)
    have short := Tree.length_le_depth listed
    simp only [List.length_append, List.length_cons] at short
    refine ⟨solid, ?_, shown, by rwa [← List.append_assoc]⟩
    rw [List.length_append, List.length_singleton]
    omega

/-- The directory at a place and the ones below it that no pattern passes over, each as the names that lead to it. -/
def folders (tree : Tree) (place : Place) : List (List Text) := [] :: foldersBelow tree place (tree.depth + 1)

theorem mem_folders (wellFormed : tree.WellFormed) (directory : tree.isDirectoryAt place) :
    parts ∈ folders tree place ↔ (∀ part ∈ parts, Shown part) ∧ tree.isDirectoryAt (place ++ parts) := by
  rw [folders, List.mem_cons, mem_foldersBelow_depth wellFormed]
  by_cases here : parts = []
  · simp [here, directory]
  · simp [here]

theorem nodup_names : (tree.names place).Nodup := nodup_eraseDups _

theorem nil_not_mem_foldersBelow : [] ∉ foldersBelow tree place fuel := by
  cases fuel with
  | zero => exact List.not_mem_nil
  | succ fuel =>
    rw [mem_foldersBelow_succ]
    rintro ⟨_, _, shape, _⟩
    contradiction

theorem nodup_foldersBelow : (foldersBelow tree place fuel).Nodup := by
  induction fuel generalizing place with
  | zero => exact List.nodup_nil
  | succ fuel ih =>
    rw [foldersBelow, List.nodup_flatMap]
    constructor
    · intro name _
      split
      · exact List.nodup_nil
      · refine List.nodup_cons.mpr ⟨?_, ih.map List.cons_injective⟩
        intro member
        obtain ⟨others, below, shape⟩ := List.mem_map.mp member
        rw [List.cons.injEq] at shape
        exact nil_not_mem_foldersBelow (shape.2 ▸ below)
    · -- Each name's directories begin with that name.
      have front {name : Text} : ∀ parts ∈ (if isHidden name ∨ !tree.isDirectoryAt (place ++ [name]) then []
          else [name] :: (foldersBelow tree (place ++ [name]) fuel).map (name :: ·)), parts.head? = some name := by
        intro parts member
        split at member
        · contradiction
        · rcases List.mem_cons.mp member with rfl | later
          · rfl
          · obtain ⟨others, _, rfl⟩ := List.mem_map.mp later
            rfl
      refine nodup_names.imp fun {a b} different parts first second => different ?_
      exact Option.some.inj ((front parts first).symm.trans (front parts second))

theorem nodup_folders : (folders tree place).Nodup :=
  List.nodup_cons.mpr ⟨nil_not_mem_foldersBelow, nodup_foldersBelow⟩

theorem directoriesBelow_eq (wellFormed : tree.WellFormed) (reached : tree.locate path = .ok place)
    (directory : tree.isDirectoryAt place) (fuel : Nat) :
    directoriesBelow tree path fuel = (foldersBelow tree place fuel).map ['/'].intercalate := by
  induction fuel generalizing path place with
  | zero => rfl
  | succ fuel ih =>
    rw [directoriesBelow, foldersBelow, List.map_flatMap, Tree.list_of_locate reached]
    refine List.flatMap_congr fun name member => ?_
    dsimp only
    by_cases hidden : isHidden name
    · simp [hidden]
    · have visible := Bool.eq_false_iff.mpr hidden
      have shown := Tree.shown_of_mem_names wellFormed member visible
      have below := Tree.locate_join_shown reached directory shown
      rw [Tree.isDirectory_of_locate below]
      by_cases folder : tree.isDirectoryAt (place ++ [name])
      · rw [if_neg (by simp [visible, folder]), if_neg (by simp [visible, folder]), ih below folder,
          List.map_cons, List.intercalate_singleton, List.map_map, List.map_map]
        congr 1
        refine List.map_congr_left fun parts inside => ?_
        exact (intercalate_cons shown.toIsName ((mem_foldersBelow wellFormed).mp inside).1).symm
      · rw [if_pos (by simp [folder]), if_pos (by simp [folder])]
        rfl

def pathBelow (path : Text) (parts : List Text) : Text :=
  join (Tree.withoutSlashes path) (['/'].intercalate parts)

theorem join_pathBelow (isNames : ∀ part ∈ parts, IsName part) (name : Text) :
    join (pathBelow path parts) name = pathBelow path (parts ++ [name]) := by
  rw [pathBelow, pathBelow, join_assoc, intercalate_concat isNames]

theorem locate_pathBelow (reached : tree.locate path = .ok place) (directory : tree.isDirectoryAt (place ++ parts))
    (shown : ∀ part ∈ parts, Shown part) : tree.locate (pathBelow path parts) = .ok (place ++ parts) := by
  have front := Tree.locate_withoutSlashes reached
  induction parts using List.reverseRecOn with
  | nil =>
    rw [List.append_nil] at directory ⊢
    rw [pathBelow, List.intercalate_nil,
      Tree.locate_join front directory List.not_mem_nil List.not_mem_nil]
    simp [Tree.follow]
  | append_singleton parts name ih =>
    rw [← List.append_assoc] at directory ⊢
    have above := Tree.isDirectoryAt_of_prefix directory (List.prefix_append _ _)
    have shownAbove : ∀ part ∈ parts, Shown part := fun part member => shown part (List.mem_append_left _ member)
    rw [← join_pathBelow fun part member => (shownAbove part member).toIsName]
    exact Tree.locate_join_shown (ih above shownAbove) above (shown name (by simp))

/- The pattern for scripts. -/

/-- The names that lead from a directory to a script: none is hidden, and the last ends in `.sql`. -/
structure IsScript (parts : List Text) : Prop where
  shown : ∀ part ∈ parts, Shown part
  ending : ∃ name ∈ parts.getLast?, lit ".sql" <:+ name

instance (parts : List Text) : Decidable (IsScript parts) :=
  decidable_of_iff ((∀ part ∈ parts, Shown part) ∧ ∃ name ∈ parts.getLast?, lit ".sql" <:+ name)
    ⟨fun ⟨shown, ending⟩ => ⟨shown, ending⟩, fun ⟨shown, ending⟩ => ⟨shown, ending⟩⟩

theorem IsScript.solid (script : IsScript parts) : parts ≠ [] := by
  rintro rfl
  obtain ⟨_, found, _⟩ := script.ending
  contradiction

theorem isScript_concat : IsScript (parts ++ [name]) ↔
    (∀ part ∈ parts, Shown part) ∧ Shown name ∧ lit ".sql" <:+ name := by
  constructor
  · rintro ⟨shown, _, last, ending⟩
    obtain rfl : name = _ := by simpa using last
    exact ⟨fun part member => shown part (List.mem_append_left _ member), shown name (by simp), ending⟩
  · rintro ⟨shown, last, ending⟩
    refine ⟨?_, name, by simp, ending⟩
    intro part member
    rcases List.mem_append.mp member with before | same
    · exact shown part before
    · exact List.mem_singleton.mp same ▸ last

/-- What the pattern for scripts leads to below a place, each as the names that lead to it. -/
def entries (tree : Tree) (place : Place) : List (List Text) :=
  (folders tree place).flatMap fun parts =>
    ((tree.names (place ++ parts)).filter fun name => matchesPart "*.sql" name).map fun name => parts ++ [name]

theorem mem_entries (wellFormed : tree.WellFormed) (directory : tree.isDirectoryAt place) :
    parts ∈ entries tree place ↔
      IsScript parts ∧ (tree.isFileAt (place ++ parts) ∨ tree.isDirectoryAt (place ++ parts)) := by
  simp only [entries, List.mem_flatMap, List.mem_map, List.mem_filter, matchesPart_scripts]
  constructor
  · rintro ⟨above, member, name, ⟨listed, visible, ending⟩, rfl⟩
    have last := Tree.shown_of_mem_names wellFormed listed visible
    rw [Tree.mem_names_iff last, List.append_assoc] at listed
    exact ⟨isScript_concat.mpr ⟨((mem_folders wellFormed directory).mp member).1, last, ending⟩, listed⟩
  · rintro ⟨script, there⟩
    obtain ⟨above, name, rfl⟩ := (List.eq_nil_or_concat' parts).resolve_left script.solid
    obtain ⟨shown, last, ending⟩ := isScript_concat.mp script
    rw [← List.append_assoc] at there
    have listed := (Tree.mem_names_iff last).mpr there
    obtain ⟨_, _, rest, somewhere⟩ := Tree.mem_names.mp listed
    have folder := Tree.isDirectoryAt_of_mem_places (List.cons_ne_nil _ _) somewhere
    exact ⟨above, (mem_folders wellFormed directory).mpr ⟨shown, folder⟩, name, ⟨listed, last.visible, ending⟩, rfl⟩

theorem nodup_entries : (entries tree place).Nodup := by
  refine List.nodup_flatMap.mpr ⟨?_, ?_⟩
  · intro parts _
    exact (nodup_names.filter _).map fun a b same => by simpa using same
  · refine nodup_folders.imp fun {above below} different parts first second => different ?_
    obtain ⟨a, _, rfl⟩ := List.mem_map.mp first
    obtain ⟨b, _, same⟩ := List.mem_map.mp second
    exact (List.append_inj' same rfl).1.symm

theorem expandPart_folders (wellFormed : tree.WellFormed) (reached : tree.locate path = .ok place)
    (directory : tree.isDirectoryAt place) :
    expandPart tree path "**" true = (folders tree place).map ['/'].intercalate := by
  have onDisk : tree.isDirectory path := by rwa [Tree.isDirectory_of_locate reached]
  rw [expandPart, if_pos rfl]
  dsimp only
  rw [if_pos (.inr onDisk), directoriesBelow_eq wellFormed reached directory]
  rfl

theorem expandPart_scripts (reached : tree.locate path = .ok place) :
    expandPart tree path "*.sql" false = (tree.names place).filter fun name => matchesPart "*.sql" name := by
  rw [expandPart, if_neg (by decide), if_pos (by decide), Tree.list_of_locate reached]
  simp

theorem expand_scripts (wellFormed : tree.WellFormed) (reached : tree.locate path = .ok place)
    (directory : tree.isDirectoryAt place) (noWildcard : isWild path = false) (fuel : Nat) :
    expand tree false (fuel + 2) (join path "**/*.sql") = (entries tree place).map (pathBelow path) := by
  have solid := Tree.solid_of_locate reached
  have front := Tree.locate_withoutSlashes reached
  have anyDepth : IsName "**" := by decide
  have scripts : IsName "*.sql" := by decide
  have pattern : join path "**/*.sql" = join (join path "**") "*.sql" := (join_assoc path "**" "*.sql").symm
  have wild : isWild (join path "**") := by
    rw [join_eq, isWild, List.any_append, Bool.or_eq_true]
    exact .inr (by decide)
  have tame : isWild (Tree.withoutSlashes path) = false := by
    rw [isWild, List.any_eq_false] at noWildcard ⊢
    exact fun c member => noWildcard c ((withoutSlashes_isPrefix path).subset member)
  have solidWild : join path "**" ≠ [] := by
    intro nothing
    rw [nothing] at wild
    contradiction
  have anywhere : expand tree true (fuel + 1) (join path "**") =
      (folders tree place).map (pathBelow path) := by
    rw [expand, parentPart_join anyDepth solid, lastPart_join anyDepth solid,
      if_neg (by simp [tame]), List.flatMap_singleton, expandPart_folders wellFormed front directory, List.map_map]
    rfl
  rw [pattern, expand, parentPart_join scripts solidWild, lastPart_join scripts solidWild,
    withoutSlashes_join anyDepth, if_pos wild, anywhere, List.flatMap_map, entries, List.map_flatMap]
  refine List.flatMap_congr fun parts member => ?_
  obtain ⟨shown, inside⟩ := (mem_folders wellFormed directory).mp member
  rw [expandPart_scripts (locate_pathBelow reached inside shown), List.map_map]
  refine List.map_congr_left fun name _ => ?_
  exact join_pathBelow (fun part member => (shown part member).toIsName) name

def filesBelow (tree : Tree) (place : Place) : List (List Text) :=
  (tree.files.map Prod.fst).filterMap place.isPrefixOf?

theorem mem_filesBelow : parts ∈ filesBelow tree place ↔ tree.isFileAt (place ++ parts) := by
  rw [filesBelow, List.mem_filterMap, Tree.isFileAt_iff]
  simp

theorem nodup_filesBelow (wellFormed : tree.WellFormed) : (filesBelow tree place).Nodup := by
  refine wellFormed.once.filterMap fun file other parts first second => ?_
  simp only [Option.mem_def, List.isPrefixOf?_eq_some_iff_append_eq] at first second
  exact first.symm.trans second

/-- The paths of the scripts below the directory at a path and a place, in the order of their characters. -/
def scripts (tree : Tree) (path : Text) (place : Place) : List Text :=
  (((filesBelow tree place).filter fun parts => IsScript parts).map (pathBelow path)).mergeSort comesFirst

theorem scripts_of_sorted {paths : List Text}
    (found : ((filesBelow tree place).filter fun parts => IsScript parts).map (pathBelow path) = paths)
    (sorted : paths.Pairwise fun p q => comesFirst p q) : scripts tree path place = paths := by
  rw [scripts, found, List.mergeSort_of_pairwise sorted]

theorem not_isDirectoryAt_of_isScript (wellFormed : tree.WellFormed)
    (others : ∀ parts ∈ foldersBelow tree place (tree.depth + 1), ¬IsScript parts) (script : IsScript parts) :
    ¬tree.isDirectoryAt (place ++ parts) :=
  fun folder => others parts ((mem_foldersBelow_depth wellFormed).mpr ⟨script.solid, script.shown, folder⟩) script

/-- The pattern for scripts leads to all the scripts below a directory and to nothing else, if no directory there
has the name of a script. -/
theorem glob_scripts (wellFormed : tree.WellFormed) (reached : tree.locate path = .ok place)
    (directory : tree.isDirectoryAt place) (noWildcard : isWild path = false)
    (noFolder : ∀ parts, IsScript parts → ¬tree.isDirectoryAt (place ++ parts)) :
    glob tree (join path "**/*.sql") = scripts tree path place := by
  obtain ⟨fuel, long⟩ : ∃ fuel, (join path "**/*.sql").length = fuel + 1 := by
    rw [join_eq, List.length_append]
    exact ⟨(stem path).length + 7, rfl⟩
  rw [glob, long, expand_scripts wellFormed reached directory noWildcard]
  refine mergeSort_congr (List.Perm.map _ ?_)
  refine (List.perm_ext_iff_of_nodup nodup_entries ((nodup_filesBelow wellFormed).filter _)).mpr ?_
  intro parts
  rw [mem_entries wellFormed directory, List.mem_filter, mem_filesBelow, decide_eq_true_eq]
  constructor
  · rintro ⟨script, file | folder⟩
    · exact ⟨file, script⟩
    · exact absurd folder (noFolder parts script)
  · rintro ⟨file, script⟩
    exact ⟨script, .inl file⟩

end

end SchemaDiff.Files
