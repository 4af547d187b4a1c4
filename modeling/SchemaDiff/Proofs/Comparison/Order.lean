import SchemaDiff.Proofs.Comparison.Correspondence
import SchemaDiff.Proofs.Comparison.Mirror
import SchemaDiff.Proofs.Comparison.Statements

/-
The order of tables and columns. Where names differ up to case, a match does not depend on where it
stands: another order of the tables gives the same records and the same statements in another order, and
another order of the columns gives the same differences.
-/
namespace SchemaDiff
open Text Comparison

/-- The same tables, in some order. -/
structure Schema.Reordered (a a' : Schema) : Prop where
  source : a.source = a'.source
  tables : a.tables.Perm a'.tables

structure Table.Rearranged (t t' : Table) : Prop where
  rest : { t with columns := [] } = { t' with columns := [] }
  columns : t.columns.Perm t'.columns

structure Schema.Rearranged (a a' : Schema) : Prop where
  source : a.source = a'.source
  tables : List.Forall₂ Table.Rearranged a.tables a'.tables

namespace Comparison

/-- The same records and the same statements, each of the lists in some order. -/
structure Reordered (r r' : Comparison) : Prop where
  missingTables : r.missingTables.Perm r'.missingTables
  missingColumns : r.missingColumns.Perm r'.missingColumns
  differentColumns : r.differentColumns.Perm r'.differentColumns
  matchingTables : r.matchingTables.Perm r'.matchingTables
  createStatements : r.createStatements.Perm r'.createStatements
  addStatements : r.addStatements.Perm r'.addStatements
  modifyStatements : r.modifyStatements.Perm r'.modifyStatements

/-- The same findings about columns, in some order, and the same matches. -/
structure SameFindings (r r' : Comparison) : Prop where
  hasDifferences : r.hasDifferences = r'.hasDifferences
  matchingTables : r.matchingTables = r'.matchingTables
  missingColumns : r.missingColumns.Perm r'.missingColumns
  differentColumns : r.differentColumns.Perm r'.differentColumns

end Comparison

theorem tableName_toTarget (pair : Table × Table) :
    ∀ x ∈ (pair.1.unmatched pair.2).map fun c => (⟨pair.1.name, c, pair.1, pair.2⟩ : Addition),
      x.tableName = pair.1.name :=
  List.forall_mem_map.mpr fun _ _ => rfl

theorem tableName_toSource (pair : Table × Table) :
    ∀ x ∈ (pair.1.unmatched pair.2).map fun c => (⟨pair.2.name, c, pair.1, pair.2⟩ : Addition),
      x.tableName = pair.2.name :=
  List.forall_mem_map.mpr fun _ _ => rfl

section

variable {a a' b b' : Schema}

theorem Schema.find?_reordered (apart : b.Apart) (tables : b.tables.Perm b'.tables) (name : Text) :
    b.find? name = b'.find? name := by
  have found := find?_key_of_perm apart.tables tables (lower name)
  exact found

theorem distinct_partners_matched (apartA : a.Apart) (apartB : b.Apart) :
    ((b.matched a).map fun pair => pair.2.name).Nodup := by
  have swapped := (perm_matched apartA apartB).map fun pair => pair.2.name
  rw [List.map_map] at swapped
  exact swapped.nodup_iff.mp (Schema.distinct_names_matched apartA)

section

variable (apartA : a.Apart) (apartB : b.Apart) (tablesA : a.tables.Perm a'.tables)
  (tablesB : b.tables.Perm b'.tables)

include apartB tablesA tablesB

theorem unmatched_reordered : (a.unmatched b).Perm (a'.unmatched b') := by
  simp only [Schema.unmatched, Schema.find?_reordered apartB tablesB]
  exact tablesA.filter _

theorem matched_reordered : (a.matched b).Perm (a'.matched b') := by
  simp only [Schema.matched, Schema.find?_reordered apartB tablesB]
  exact tablesA.filterMap _

include apartA

theorem gather_additions_reordered :
    (gather Addition.tableName (additions a b)).Perm
      (gather Addition.tableName (additions a' b')) := by
  apply gather_perm
  intro k
  -- Each direction gives the group the columns of one pair at most, so the order of the pairs is not seen.
  have toTarget := filter_flatMap_of_perm tableName_toTarget (Schema.distinct_names_matched apartA)
    (matched_reordered apartB tablesA tablesB) k
  have toSource := filter_flatMap_of_perm tableName_toSource (distinct_partners_matched apartA apartB)
    (matched_reordered apartA tablesB tablesA) k
  rw [additions, additions, List.filter_append, List.filter_append, toTarget, toSource]

theorem gather_modifications_reordered :
    (gather (fun m : Modification => m.declaredIn.name) (modifications a b)).Perm
      (gather (fun m : Modification => m.declaredIn.name) (modifications a' b')) := by
  apply gather_perm
  intro k
  have byName : ∀ pair : Table × Table, ∀ m ∈ (pair.1.different pair.2).map fun columns =>
      (⟨columns.1, pair.1⟩ : Modification), m.declaredIn.name = pair.1.name :=
    fun _ => List.forall_mem_map.mpr fun _ _ => rfl
  exact filter_flatMap_of_perm byName (Schema.distinct_names_matched apartA)
    (matched_reordered apartB tablesA tablesB) k

end

theorem missingTables_reordered (apartB : b.Apart) (orderA : a.Reordered a')
    (orderB : b.Reordered b') : (missingTablesOf a b).Perm (missingTablesOf a' b') := by
  rw [missingTablesOf, missingTablesOf, orderA.source, orderB.source]
  exact (unmatched_reordered apartB orderA.tables orderB.tables).map _

theorem missingColumns_reordered (apartB : b.Apart) (tablesA : a.tables.Perm a'.tables)
    (orderB : b.Reordered b') : (missingColumnsOf a b).Perm (missingColumnsOf a' b') := by
  rw [missingColumnsOf, missingColumnsOf, orderB.source]
  exact (matched_reordered apartB tablesA orderB.tables).flatMap_right _

theorem compare_reordered (style : Ddl.Style) (apartA : a.Apart) (apartB : b.Apart)
    (orderA : a.Reordered a') (orderB : b.Reordered b') :
    (compare style a b).Reordered (compare style a' b') := by
  have matched := matched_reordered apartB orderA.tables orderB.tables
  have missingTables := (missingTables_reordered apartB orderA orderB).append
    (missingTables_reordered apartA orderB orderA)
  constructor
  · exact missingTables
  · exact (missingColumns_reordered apartB orderA.tables orderB).append
      (missingColumns_reordered apartA orderB.tables orderA)
  · exact matched.flatMap_right _
  · exact matched.map _
  · exact missingTables.map _
  · exact (gather_additions_reordered apartA apartB orderA.tables orderB.tables).map _
  · exact (gather_modifications_reordered apartA apartB orderA.tables orderB.tables).map _

end

namespace Table

def Shuffled (t t' : Table) : Prop :=
  (t.columns.map (lower ·.name)).Nodup ∧ t.Rearranged t'

variable {t t' u u' : Table}

theorem Shuffled.name (same : t.Shuffled t') : t.name = t'.name :=
  (Table.mk.inj same.2.rest).1

theorem Shuffled.findColumn? (same : u.Shuffled u') (name : Text) :
    u.findColumn? name = u'.findColumn? name := by
  have found := find?_key_of_perm same.1 same.2.columns (lower name)
  exact found

theorem Shuffled.unmatched (first : t.Shuffled t') (second : u.Shuffled u') :
    (t.unmatched u).Perm (t'.unmatched u') := by
  simp only [Table.unmatched, second.findColumn?]
  exact first.2.columns.filter _

theorem Shuffled.different (first : t.Shuffled t') (second : u.Shuffled u') :
    (t.different u).Perm (t'.different u') := by
  simp only [Table.different, second.findColumn?]
  exact (first.2.columns.filterMap _).filter _

end Table

section

variable {a a' b b' : Schema}

theorem Schema.Rearranged.shuffled (apart : a.Apart) (same : a.Rearranged a') :
    List.Forall₂ Table.Shuffled a.tables a'.tables :=
  (List.forall₂_and_left _ _).mpr ⟨apart.columns, same.tables⟩

section

variable (source : List.Forall₂ Table.Shuffled a.tables a'.tables)
  (target : List.Forall₂ Table.Shuffled b.tables b'.tables)

include source target

theorem matched_shuffled :
    List.Forall₂ (SamePair Table.Shuffled) (a.matched b) (a'.matched b') :=
  Schema.forall₂_matched (fun _ _ => Table.Shuffled.name) source target

theorem length_unmatched_shuffled : (a.unmatched b).length = (a'.unmatched b').length :=
  (Schema.forall₂_unmatched (fun _ _ => Table.Shuffled.name) source target).length_eq

theorem missingColumns_shuffled (label : b.source = b'.source) :
    (missingColumnsOf a b).Perm (missingColumnsOf a' b') := by
  rw [missingColumnsOf, missingColumnsOf, label]
  refine perm_flatMap_of_forall₂ ?_ (matched_shuffled source target)
  rintro ⟨t, u⟩ ⟨t', u'⟩ ⟨first, second⟩
  have name : t.name = t'.name := first.name
  simp only [name]
  exact (first.unmatched second).map _

theorem differences_shuffled : (differencesOf a b).Perm (differencesOf a' b') := by
  refine perm_flatMap_of_forall₂ ?_ (matched_shuffled source target)
  rintro ⟨t, u⟩ ⟨t', u'⟩ ⟨first, second⟩
  have name : t.name = t'.name := first.name
  simp only [name]
  exact (first.different second).map _

end

theorem compare_rearranged (style : Ddl.Style) (apartA : a.Apart) (apartB : b.Apart)
    (orderA : a.Rearranged a') (orderB : b.Rearranged b') :
    (compare style a b).SameFindings (compare style a' b') := by
  have source := orderA.shuffled apartA
  have target := orderB.shuffled apartB
  have missingColumns : (compare style a b).missingColumns.Perm (compare style a' b').missingColumns :=
    (missingColumns_shuffled source target orderB.source).append
      (missingColumns_shuffled target source orderA.source)
  have differences : (compare style a b).differentColumns.Perm
      (compare style a' b').differentColumns := differences_shuffled source target
  have missingTables : (compare style a b).missingTables.length =
      (compare style a' b').missingTables.length := by
    simp only [compare, missingTablesOf, List.length_append, List.length_map,
      length_unmatched_shuffled source target, length_unmatched_shuffled target source]
  refine ⟨?_, ?_, missingColumns, differences⟩
  · have none : (compare style a b).missingTables.isEmpty =
        (compare style a' b').missingTables.isEmpty := by
      rw [Bool.eq_iff_iff, List.isEmpty_iff_length_eq_zero, missingTables,
        List.isEmpty_iff_length_eq_zero]
    rw [hasDifferences, none, missingColumns.isEmpty_eq, differences.isEmpty_eq, hasDifferences]
  · exact map_eq_of_forall₂ (fun _ _ same => same.1.name) (matched_shuffled source target)

/-- The order of tables is the order of the records and the statements, and nothing else; the order of
columns is not seen in what is found. -/
theorem compare_perm (style : Ddl.Style) (apartA : a.Apart) (apartB : b.Apart) :
    (a.Reordered a' → b.Reordered b' →
      (compare style a b).Reordered (compare style a' b')) ∧
    (a.Rearranged a' → b.Rearranged b' →
      (compare style a b).SameFindings (compare style a' b')) :=
  ⟨compare_reordered style apartA apartB, compare_rearranged style apartA apartB⟩

end

theorem compare_perm_logs :
    let users : Table := {
      name := "Users"
      columns := [{ name := "id" }, { name := "age", dataType := "INT" }, { name := "mail" }] }
    let shuffled : Table := { users with columns := users.columns.reverse }
    let logs : Table := { name := "logs", columns := [{ name := "at" }] }
    let a := Schema.ofTables "a" [users, logs]
    let b := Schema.ofTables "b" [
      { name := "users", columns := [{ name := "AGE", dataType := "BIGINT" }, { name := "name" }] }]
    (a.Apart ∧ b.Apart) ∧
      (compare {} a b).Reordered (compare {} (Schema.ofTables "a" [logs, users]) b) ∧
      (compare {} a b).SameFindings (compare {} (Schema.ofTables "a" [shuffled, logs]) b) ∧
      (compare {} a b).differentColumns.length = 1 ∧ (compare {} a b).statements.length = 3 := by
  intro users shuffled logs a b
  have apart : a.Apart ∧ b.Apart := by decide +kernel
  have same : b.Rearranged b :=
    ⟨rfl, List.forall₂_same.mpr fun _ _ => ⟨rfl, List.Perm.refl _⟩⟩
  have reordered : a.Reordered (Schema.ofTables "a" [logs, users]) :=
    ⟨rfl, List.Perm.swap logs users []⟩
  have rearranged : a.Rearranged (Schema.ofTables "a" [shuffled, logs]) :=
    ⟨rfl, .cons ⟨rfl, (List.reverse_perm _).symm⟩ (.cons ⟨rfl, List.Perm.refl _⟩ .nil)⟩
  have ofTables := (compare_perm {} apart.1 apart.2).1 reordered ⟨rfl, List.Perm.refl _⟩
  have ofColumns := (compare_perm {} apart.1 apart.2).2 rearranged same
  exact ⟨apart, ofTables, ofColumns, by decide +kernel, by decide +kernel⟩

end SchemaDiff
