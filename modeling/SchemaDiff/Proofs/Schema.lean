import Mathlib.Data.List.Nodup
import SchemaDiff.Schema

/-
Schemas of tables with distinct names, and the look-up of a table or a column by its name up to case:
the first match is found, and where names differ up to case there is no other one.
-/
namespace SchemaDiff
open Text

section

variable {α : Type} {name : α → Text} {items : List α} {n : Text}

def Lacks (name : α → Text) (items : List α) (n : Text) : Prop :=
  ∀ x ∈ items, lower (name x) ≠ lower n

/-- The item is the first one with the name up to case. -/
def IsFirst (name : α → Text) (items : List α) (n : Text) (x : α) : Prop :=
  lower (name x) = lower n ∧
    ∃ before after, items = before ++ x :: after ∧ Lacks name before n

theorem find?_name_eq_none :
    items.find? (fun x => lower (name x) == lower n) = none ↔ Lacks name items n := by
  simp [Lacks, List.find?_eq_none]

theorem find?_name_eq_some {x : α} :
    items.find? (fun x => lower (name x) == lower n) = some x ↔ IsFirst name items n x := by
  simp [IsFirst, Lacks, List.find?_eq_some_iff_append]

theorem isSome_find?_name :
    (items.find? fun x => lower (name x) == lower n).isSome ↔
      lower n ∈ items.map fun x => lower (name x) := by
  simp [List.find?_isSome]

theorem forall_isSome_find?_name {others : List α} :
    (∀ x ∈ items, (others.find? fun y => lower (name y) == lower (name x)).isSome) ↔
      items.map (fun x => lower (name x)) ⊆ others.map fun y => lower (name y) := by
  rw [List.subset_def, List.forall_mem_map]
  exact forall₂_congr fun _ _ => isSome_find?_name

theorem IsFirst.not_lacks {x : α} (first : IsFirst name items n x) : ¬Lacks name items n := by
  obtain ⟨same, before, after, rfl, _⟩ := first
  exact fun lacks => lacks x (by simp) same

theorem IsFirst.unique {x y : α} (first : IsFirst name items n x) (other : IsFirst name items n y) :
    x = y := by
  have found := find?_name_eq_some.mpr first
  rw [find?_name_eq_some.mpr other] at found
  exact (Option.some.inj found).symm

end

theorem find?_of_distinct {α : Type} {key : α → Text} {xs : List α} (distinct : (xs.map key).Nodup)
    {x : α} (member : x ∈ xs) {k : Text} (same : key x = k) :
    xs.find? (fun y => key y == k) = some x := by
  induction xs with
  | nil => simp at member
  | cons y others ih =>
    rw [List.map_cons, List.nodup_cons] at distinct
    rcases List.mem_cons.mp member with rfl | later
    · simp [same]
    · have other : key y ≠ k := by
        rintro rfl
        exact distinct.1 (same ▸ List.mem_map_of_mem later)
      rw [List.find?_cons_of_neg (by simpa using other)]
      exact ih distinct.2 later

section

variable {α : Type} {key : α → Text} {xs ys : List α}

theorem length_filter_key (distinct : (xs.map key).Nodup) (k : Text) :
    (xs.filter (key · == k)).length ≤ 1 := by
  rw [← List.countP_eq_length_filter]
  have once := List.nodup_iff_count_le_one.mp distinct k
  rwa [List.count, List.countP_map] at once

theorem filter_key_of_perm (distinct : (xs.map key).Nodup) (perm : xs.Perm ys) (k : Text) :
    xs.filter (key · == k) = ys.filter (key · == k) := by
  have sorted := perm.filter (key · == k)
  have atMost := length_filter_key distinct k
  match shape : xs.filter (key · == k) with
  | [] =>
    rw [shape] at sorted
    exact sorted.nil_eq
  | [x] =>
    rw [shape] at sorted
    exact List.singleton_perm.mp sorted
  | _ :: _ :: _ => simp [shape] at atMost

theorem filter_of_distinct (distinct : (xs.map key).Nodup) {x : α} (member : x ∈ xs) :
    xs.filter (key · == key x) = [x] := by
  have inside : x ∈ xs.filter (key · == key x) := List.mem_filter.mpr ⟨member, by simp⟩
  have atMost := length_filter_key distinct (key x)
  match shape : xs.filter (key · == key x) with
  | [] => simp [shape] at inside
  | [y] =>
    rw [shape] at inside
    rw [List.mem_singleton.mp inside]
  | _ :: _ :: _ => simp [shape] at atMost

theorem find?_key_of_perm (distinct : (xs.map key).Nodup) (perm : xs.Perm ys) (k : Text) :
    xs.find? (key · == k) = ys.find? (key · == k) := by
  rw [← List.head?_filter, ← List.head?_filter, filter_key_of_perm distinct perm]

end

namespace Table

theorem findColumn?_eq_none {t : Table} {name : Text} :
    t.findColumn? name = none ↔ Lacks Column.name t.columns name :=
  find?_name_eq_none

theorem findColumn?_eq_some {t : Table} {name : Text} {c : Column} :
    t.findColumn? name = some c ↔ IsFirst Column.name t.columns name c :=
  find?_name_eq_some

theorem mem_of_findColumn? {t : Table} {name : Text} {c : Column}
    (found : t.findColumn? name = some c) : c ∈ t.columns ∧ lower c.name = lower name := by
  have same := List.find?_some found
  exact ⟨List.mem_of_find?_eq_some found, by simpa using same⟩

theorem findColumn?_of_distinct {t : Table} (distinct : (t.columns.map (lower ·.name)).Nodup)
    {c : Column} (member : c ∈ t.columns) {name : Text} (same : lower c.name = lower name) :
    t.findColumn? name = some c :=
  find?_of_distinct distinct member same

theorem findColumn?_isSome {t : Table} {c : Column} (member : c ∈ t.columns) {name : Text}
    (same : lower c.name = lower name) : (t.findColumn? name).isSome := by
  rw [findColumn?, List.find?_isSome]
  exact ⟨c, member, by simpa using same⟩

end Table

namespace Schema

theorem find?_eq_none {s : Schema} {name : Text} :
    s.find? name = none ↔ Lacks Table.name s.tables name :=
  find?_name_eq_none

theorem find?_eq_some {s : Schema} {name : Text} {t : Table} :
    s.find? name = some t ↔ IsFirst Table.name s.tables name t :=
  find?_name_eq_some

theorem mem_of_find? {s : Schema} {name : Text} {t : Table} (found : s.find? name = some t) :
    t ∈ s.tables ∧ lower t.name = lower name := by
  have same := List.find?_some found
  exact ⟨List.mem_of_find?_eq_some found, by simpa using same⟩

theorem find?_of_distinct {s : Schema} (distinct : (s.tables.map (lower ·.name)).Nodup)
    {t : Table} (member : t ∈ s.tables) {name : Text} (same : lower t.name = lower name) :
    s.find? name = some t :=
  SchemaDiff.find?_of_distinct distinct member same

theorem put_new {key : Text} {table : Table} {entries : List (Text × Table)}
    (absent : key ∉ entries.map Prod.fst) : put key table entries = entries ++ [(key, table)] := by
  induction entries with
  | nil => rfl
  | cons entry rest ih =>
    simp only [List.map_cons, List.mem_cons, not_or] at absent
    rw [put, if_neg (Ne.symm absent.1), ih absent.2]
    rfl

theorem foldl_insert {s : Schema} {entries : List (Text × Table)}
    (distinct : ((s.entries ++ entries).map Prod.fst).Nodup) :
    (entries.foldl (fun s entry => s.insert entry.1 entry.2) s).entries = s.entries ++ entries ∧
      (entries.foldl (fun s entry => s.insert entry.1 entry.2) s).source = s.source := by
  induction entries generalizing s with
  | nil => simp
  | cons entry others ih =>
    have absent : entry.1 ∉ s.entries.map Prod.fst := by
      intro member
      rw [List.map_append, List.nodup_append'] at distinct
      exact distinct.2.2 member (by simp)
    have added : (s.insert entry.1 entry.2).entries = s.entries ++ [entry] := put_new absent
    have later := ih (s := s.insert entry.1 entry.2) (by rw [added]; simpa using distinct)
    rw [added, show (s.insert entry.1 entry.2).source = s.source from rfl] at later
    simpa using later

theorem ofTables_of_distinct {source : Text} {tables : List Table}
    (distinct : (tables.map Table.name).Nodup) :
    (ofTables source tables).entries = tables.map (fun t => (t.name, t)) ∧
      (ofTables source tables).source = source := by
  have keys : ((tables.map fun t => (t.name, t)).map Prod.fst).Nodup := by
    simpa [Function.comp_def] using distinct
  exact foldl_insert (s := empty source) keys

theorem tables_ofTables {source : Text} {tables : List Table}
    (distinct : (tables.map Table.name).Nodup) : (ofTables source tables).tables = tables := by
  rw [Schema.tables, (ofTables_of_distinct distinct).1]
  simp [Function.comp_def]

end Schema

end SchemaDiff
