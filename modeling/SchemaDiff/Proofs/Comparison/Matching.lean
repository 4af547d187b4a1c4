import SchemaDiff.Comparison
import SchemaDiff.Proofs.Schema

/-
Matching of tables and columns under names that differ up to case.
-/
namespace SchemaDiff
open Text

/-- No two tables have one name up to case, and neither have two columns of one table. -/
structure Schema.Apart (s : Schema) : Prop where
  tables : (s.tables.map (lower ·.name)).Nodup
  columns : ∀ t ∈ s.tables, (t.columns.map (lower ·.name)).Nodup

instance (s : Schema) : Decidable s.Apart :=
  decidable_of_iff ((s.tables.map (lower ·.name)).Nodup ∧
      ∀ t ∈ s.tables, (t.columns.map (lower ·.name)).Nodup)
    ⟨fun h => ⟨h.1, h.2⟩, fun h => ⟨h.tables, h.columns⟩⟩

/-- The tables are kept under their names, no two of them alike up to case, and neither are two columns
of one table. -/
structure Schema.Clean (s : Schema) : Prop where
  keyed : s.keys = s.tables.map Table.name
  tables : (s.tables.map (lower ·.name)).Nodup
  columns : ∀ t ∈ s.tables, (t.columns.map (lower ·.name)).Nodup

theorem Schema.Clean.apart {s : Schema} (clean : s.Clean) : s.Apart := ⟨clean.tables, clean.columns⟩

theorem names_of_lower {tables : List Table} (distinct : (tables.map (lower ·.name)).Nodup) :
    (tables.map Table.name).Nodup := by
  apply List.Nodup.of_map lower
  rw [List.map_map]
  exact distinct

theorem Schema.clean_ofTables {source : Text} {tables : List Table}
    (distinct : (tables.map (lower ·.name)).Nodup)
    (columns : ∀ t ∈ tables, (t.columns.map (lower ·.name)).Nodup) :
    (Schema.ofTables source tables).Clean := by
  have names := names_of_lower distinct
  have built : (Schema.ofTables source tables).tables = tables := tables_ofTables names
  refine ⟨?_, by rwa [built], by rwa [built]⟩
  rw [built, keys, (ofTables_of_distinct names).1, List.map_map]
  rfl

/-- Every table of `b` and every column of it has a match in `a`. -/
def Schema.Covers (a b : Schema) : Prop :=
  ∀ u ∈ b.tables, ∃ t, a.find? u.name = some t ∧ ∀ d ∈ u.columns, (t.findColumn? d.name).isSome

instance (s : Schema) : Decidable s.Clean :=
  decidable_of_iff (s.keys = s.tables.map Table.name ∧ (s.tables.map (lower ·.name)).Nodup ∧
      ∀ t ∈ s.tables, (t.columns.map (lower ·.name)).Nodup)
    ⟨fun h => ⟨h.1, h.2.1, h.2.2⟩, fun h => ⟨h.keyed, h.tables, h.columns⟩⟩

instance (a b : Schema) : Decidable (a.Covers b) :=
  inferInstanceAs (Decidable (∀ u ∈ b.tables, ∃ t ∈ a.find? u.name,
    ∀ d ∈ u.columns, (t.findColumn? d.name).isSome))

namespace Schema

variable {a b : Schema}

theorem mem_matched {t u : Table} :
    (t, u) ∈ a.matched b ↔ t ∈ a.tables ∧ b.find? t.name = some u := by
  simp only [matched, List.mem_filterMap, Option.map_eq_some_iff, Prod.mk.injEq]
  constructor
  · rintro ⟨_, listed, _, found, rfl, rfl⟩
    exact ⟨listed, found⟩
  · rintro ⟨listed, found⟩
    exact ⟨t, listed, u, found, rfl, rfl⟩

theorem mem_unmatched {t : Table} : t ∈ a.unmatched b ↔ t ∈ a.tables ∧ b.find? t.name = none := by
  rw [unmatched, List.mem_filter, Option.isNone_iff_eq_none]

theorem unmatched_eq_nil : a.unmatched b = [] ↔ ∀ t ∈ a.tables, (b.find? t.name).isSome := by
  simp [unmatched, List.filter_eq_nil_iff, Option.isSome_iff_ne_none]

theorem unmatched_eq_nil_iff_subset : a.unmatched b = [] ↔
    a.tables.map (lower ·.name) ⊆ b.tables.map (lower ·.name) :=
  unmatched_eq_nil.trans forall_isSome_find?_name

theorem fst_matched : (a.matched b).map Prod.fst =
    a.tables.filter fun t => (b.find? t.name).isSome := by
  rw [matched]
  induction a.tables with
  | nil => rfl
  | cons t others ih =>
    cases found : b.find? t.name <;> simp [found, ih]

theorem matched_sublist : ((a.matched b).map Prod.fst).Sublist a.tables := by
  rw [fst_matched]
  exact List.filter_sublist

theorem distinct_matched (apart : a.Apart) :
    ((a.matched b).map fun pair => lower pair.1.name).Nodup := by
  have names : (a.matched b).map (fun pair => lower pair.1.name) =
      ((a.matched b).map Prod.fst).map (lower ·.name) := by rw [List.map_map]; rfl
  rw [names]
  exact apart.tables.sublist (matched_sublist.map _)

theorem distinct_names_matched (apart : a.Apart) :
    ((a.matched b).map fun pair => pair.1.name).Nodup := by
  apply List.Nodup.of_map lower
  rw [List.map_map]
  exact distinct_matched apart

theorem find?_of_matched (apart : a.Apart) {t u : Table} (pair : (t, u) ∈ a.matched b) :
    u ∈ b.tables ∧ lower u.name = lower t.name ∧ a.find? u.name = some t := by
  obtain ⟨listed, found⟩ := mem_matched.mp pair
  obtain ⟨member, same⟩ := mem_of_find? found
  exact ⟨member, same, find?_of_distinct apart.tables listed same.symm⟩

theorem mem_matched_symm (apart : a.Apart) {t u : Table} (pair : (t, u) ∈ a.matched b) :
    (u, t) ∈ b.matched a := by
  obtain ⟨listed, _, found⟩ := find?_of_matched apart pair
  exact mem_matched.mpr ⟨listed, found⟩

theorem mem_matched_of_find? (apart : b.Apart) {t u : Table} (member : u ∈ b.tables)
    (found : a.find? u.name = some t) : (t, u) ∈ a.matched b := by
  obtain ⟨listed, same⟩ := mem_of_find? found
  exact mem_matched.mpr ⟨listed, find?_of_distinct apart.tables member same.symm⟩

theorem fst_matched_of_covers (covered : a.Covers b) : (b.matched a).map Prod.fst = b.tables := by
  rw [fst_matched, List.filter_eq_self]
  intro u inside
  obtain ⟨t, found, _⟩ := covered u inside
  exact Option.isSome_of_eq_some found

theorem find?_of_unmatched (apart : a.Apart) {t : Table} (missing : t ∈ a.unmatched b) :
    a.find? t.name = some t :=
  find?_of_distinct apart.tables (mem_unmatched.mp missing).1 rfl

end Schema

namespace Table

variable {t u : Table}

theorem mem_unmatched {c : Column} :
    c ∈ t.unmatched u ↔ c ∈ t.columns ∧ u.findColumn? c.name = none := by
  rw [unmatched, List.mem_filter, Option.isNone_iff_eq_none]

theorem mem_different {c d : Column} : (c, d) ∈ t.different u ↔
    c ∈ t.columns ∧ u.findColumn? c.name = some d ∧ c.changes d ≠ [] := by
  simp only [different, List.mem_filter, List.mem_filterMap, Option.map_eq_some_iff, Prod.mk.injEq,
    decide_eq_true_eq]
  constructor
  · rintro ⟨⟨_, listed, _, found, rfl, rfl⟩, differ⟩
    exact ⟨listed, found, differ⟩
  · rintro ⟨listed, found, differ⟩
    exact ⟨⟨c, listed, d, found, rfl, rfl⟩, differ⟩

theorem unmatched_eq_nil :
    t.unmatched u = [] ↔ ∀ c ∈ t.columns, (u.findColumn? c.name).isSome := by
  simp [unmatched, List.filter_eq_nil_iff, Option.isSome_iff_ne_none]

theorem unmatched_eq_nil_iff_subset : t.unmatched u = [] ↔
    t.columns.map (lower ·.name) ⊆ u.columns.map (lower ·.name) :=
  unmatched_eq_nil.trans forall_isSome_find?_name

theorem unmatched_self (t : Table) : t.unmatched t = [] :=
  unmatched_eq_nil.mpr fun _ member => findColumn?_isSome member rfl

theorem changes_self (c : Column) : c.changes c = [] := by simp [Column.changes]

theorem different_self (distinct : (t.columns.map (lower ·.name)).Nodup) : t.different t = [] := by
  rw [List.eq_nil_iff_forall_not_mem]
  rintro ⟨c, d⟩ member
  obtain ⟨listed, found, differ⟩ := mem_different.mp member
  rw [findColumn?_of_distinct distinct listed rfl] at found
  cases found
  exact differ (changes_self c)

theorem unmatched_sublist : (t.unmatched u).Sublist t.columns := List.filter_sublist

theorem distinct_grown (distinctT : (t.columns.map (lower ·.name)).Nodup)
    (distinctU : (u.columns.map (lower ·.name)).Nodup) :
    ((u.columns ++ t.unmatched u).map (lower ·.name)).Nodup := by
  rw [List.map_append, List.nodup_append']
  refine ⟨distinctU, distinctT.sublist (unmatched_sublist.map _), ?_⟩
  intro k first second
  obtain ⟨d, inside, rfl⟩ := List.mem_map.mp first
  obtain ⟨c, missing, same⟩ := List.mem_map.mp second
  have found := findColumn?_isSome inside same.symm
  rw [(mem_unmatched.mp missing).2] at found
  contradiction

theorem fst_different_sublist : ((t.different u).map Prod.fst).Sublist t.columns := by
  have matched : ((t.columns.filterMap fun c => (u.findColumn? c.name).map (c, ·)).map
      Prod.fst).Sublist t.columns := by
    induction t.columns with
    | nil => exact List.Sublist.slnil
    | cons c others ih =>
      cases found : u.findColumn? c.name with
      | none => simpa [found] using ih.cons c
      | some d => simpa [found] using ih
  exact (List.filter_sublist.map Prod.fst).trans matched

end Table

end SchemaDiff
