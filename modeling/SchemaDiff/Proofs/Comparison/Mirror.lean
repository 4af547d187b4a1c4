import Mathlib.Data.List.Perm.Basic
import Mathlib.Data.Prod.Basic
import SchemaDiff.Proofs.Comparison.Structure

/-
The comparison the other way round. What is missing is looked for in both directions, so the two
comparisons list the same entries. Attributes are compared in one direction only; where names differ up
to case, the differences of the one comparison are those of the other one with source and target
exchanged.
-/
namespace SchemaDiff
open Text Ddl Comparison

/-- The one list has the forward entries first, the other one the reverse entries. -/
def Turned {α : Type} (forward back xs ys : List α) : Prop :=
  xs = forward ++ back ∧ ys = back ++ forward

structure MissingTable.From (a b : Schema) (m : MissingTable) : Prop where
  presentIn : m.presentIn = a.source
  missingFrom : m.missingFrom = b.source
  table : m.table ∈ a.tables

structure MissingColumn.From (a b : Schema) (m : MissingColumn) : Prop where
  missingFrom : m.missingFrom = b.source
  column : ∃ t ∈ a.tables, t.name = m.tableName ∧ m.column ∈ t.columns

/-- An entry for the same two columns with source and target exchanged, and with the two values of each
difference exchanged in its text. -/
structure ColumnDifference.Mirrors (d e : ColumnDifference) : Prop where
  table : lower e.tableName = lower d.tableName
  source : e.source = d.target
  target : e.target = d.source
  texts : ∃ parts : List (Text × Text × Text),
    d.changes.map Change.describe = parts.map (fun (label, x, y) => Change.versus label x y) ∧
    e.changes.map Change.describe = parts.map (fun (label, x, y) => Change.versus label y x)

section

variable {a b : Schema}

theorem from_of_mem_missingTablesOf {m : MissingTable} (member : m ∈ missingTablesOf a b) :
    m.From a b := by
  obtain ⟨t, missing, rfl⟩ := List.mem_map.mp member
  exact ⟨rfl, rfl, (Schema.mem_unmatched.mp missing).1⟩

theorem from_of_mem_missingColumnsOf {m : MissingColumn} (member : m ∈ missingColumnsOf a b) :
    m.From a b := by
  obtain ⟨⟨t, u⟩, pair, inside⟩ := List.mem_flatMap.mp member
  obtain ⟨c, missing, rfl⟩ := List.mem_map.mp inside
  exact ⟨rfl, t, (Schema.mem_matched.mp pair).1, rfl, (Table.mem_unmatched.mp missing).1⟩

end

theorem Table.mem_different_symm {t u : Table}
    (distinct : (t.columns.map (lower ·.name)).Nodup) {c d : Column}
    (member : (c, d) ∈ t.different u) : (d, c) ∈ u.different t := by
  obtain ⟨listed, found, differ⟩ := mem_different.mp member
  obtain ⟨inside, same⟩ := mem_of_findColumn? found
  have back : t.findColumn? d.name = some c := findColumn?_of_distinct distinct listed same.symm
  refine mem_different.mpr ⟨inside, back, ?_⟩
  rw [← Column.map_swap_changes]
  simpa using differ

theorem Table.nodup_different {t u : Table} (distinct : (t.columns.map (lower ·.name)).Nodup) :
    (t.different u).Nodup :=
  List.Nodup.of_map Prod.fst ((List.Nodup.of_map _ distinct).sublist fst_different_sublist)

theorem perm_swap {α : Type} {xs ys : List (α × α)} (distinctX : xs.Nodup) (distinctY : ys.Nodup)
    (there : ∀ x y, (x, y) ∈ xs → (y, x) ∈ ys) (back : ∀ y x, (y, x) ∈ ys → (x, y) ∈ xs) :
    (xs.map Prod.swap).Perm ys := by
  rw [List.perm_ext_iff_of_nodup (distinctX.map Prod.swap_injective) distinctY]
  rintro ⟨y, x⟩
  constructor
  · intro member
    obtain ⟨_, listed, same⟩ := List.mem_map.mp member
    cases same
    exact there _ _ listed
  · intro member
    exact List.mem_map.mpr ⟨(x, y), back y x member, rfl⟩

theorem Table.perm_different {t u : Table} (distinctT : (t.columns.map (lower ·.name)).Nodup)
    (distinctU : (u.columns.map (lower ·.name)).Nodup) :
    ((t.different u).map Prod.swap).Perm (u.different t) :=
  perm_swap (nodup_different distinctT) (nodup_different distinctU)
    (fun _ _ => mem_different_symm distinctT) fun _ _ => mem_different_symm distinctU

section

variable {a b : Schema}

theorem perm_matched (apartA : a.Apart) (apartB : b.Apart) :
    ((a.matched b).map Prod.swap).Perm (b.matched a) :=
  perm_swap (List.Nodup.of_map _ (Schema.distinct_matched apartA))
    (List.Nodup.of_map _ (Schema.distinct_matched apartB))
    (fun _ _ => Schema.mem_matched_symm apartA) fun _ _ => Schema.mem_matched_symm apartB

/-- Each difference with the one that the other comparison lists for its columns. -/
def mirrored (a b : Schema) : List (ColumnDifference × ColumnDifference) :=
  (a.matched b).flatMap fun (t, u) =>
    (t.different u).map fun (c, d) => (⟨t.name, c, d⟩, ⟨u.name, d, c⟩)

theorem fst_mirrored (a b : Schema) : (mirrored a b).map Prod.fst = differencesOf a b := by
  simp [mirrored, differencesOf, List.map_flatMap, Function.comp_def]

theorem snd_mirrored (apartA : a.Apart) (apartB : b.Apart) :
    ((mirrored a b).map Prod.snd).Perm (differencesOf b a) := by
  have swapped : (mirrored a b).map Prod.snd =
      ((a.matched b).map Prod.swap).flatMap fun (u, t) =>
        ((t.different u).map Prod.swap).map fun (d, c) => ⟨u.name, d, c⟩ := by
    simp [mirrored, List.map_flatMap, List.flatMap_map, Function.comp_def]
  rw [swapped]
  refine ((perm_matched apartA apartB).flatMap_right _).trans (List.Perm.flatMap_left _ ?_)
  rintro ⟨u, t⟩ pair
  have listed := (Schema.mem_matched.mp pair).1
  have inside := (Schema.find?_of_matched apartB pair).1
  exact (Table.perm_different (apartA.columns t inside) (apartB.columns u listed)).map _

theorem mirrors_of_mem_mirrored {d e : ColumnDifference} (member : (d, e) ∈ mirrored a b) :
    d.Mirrors e := by
  obtain ⟨⟨t, u⟩, pair, inside⟩ := List.mem_flatMap.mp member
  obtain ⟨⟨c, c'⟩, _, same⟩ := List.mem_map.mp inside
  cases same
  refine ⟨(Schema.mem_of_find? (Schema.mem_matched.mp pair).2).2, rfl, rfl,
    (c.changes c').map Change.parts, ?_, ?_⟩
  · rw [List.map_map]
    exact List.map_congr_left fun change _ => change.describe_eq
  · rw [ColumnDifference.changes, ← Column.map_swap_changes, List.map_map, List.map_map]
    exact List.map_congr_left fun change _ => change.describe_swap

end

/-- The two comparisons list the same missing tables and columns and the same statements that create
tables, each with the other one's reverse entries first. Where the names of each schema differ up to
case, they have as many matching tables, and the differences of the one are those of the other, mirrored. -/
theorem compare_mirrored (style : Style) (a b : Schema) :
    (∃ forward back,
      Turned forward back (compare style a b).missingTables (compare style b a).missingTables ∧
      Turned (forward.map fun m => style.createTable m.table)
        (back.map fun m => style.createTable m.table)
        (compare style a b).createStatements (compare style b a).createStatements ∧
      (∀ m ∈ forward, m.From a b) ∧ ∀ m ∈ back, m.From b a) ∧
    (∃ forward back,
      Turned forward back (compare style a b).missingColumns (compare style b a).missingColumns ∧
      (∀ m ∈ forward, m.From a b) ∧ ∀ m ∈ back, m.From b a) ∧
    (a.Apart → b.Apart →
      (compare style b a).matchingTables.length = (compare style a b).matchingTables.length ∧
      (compare style b a).hasDifferences = (compare style a b).hasDifferences ∧
      ∃ pairs : List (ColumnDifference × ColumnDifference),
        pairs.map Prod.fst = (compare style a b).differentColumns ∧
        (pairs.map Prod.snd).Perm (compare style b a).differentColumns ∧
        ∀ d e, (d, e) ∈ pairs → d.Mirrors e) := by
  refine ⟨?_, ?_, ?_⟩
  · exact ⟨missingTablesOf a b, missingTablesOf b a, ⟨rfl, rfl⟩, ⟨List.map_append, List.map_append⟩,
      fun _ => from_of_mem_missingTablesOf, fun _ => from_of_mem_missingTablesOf⟩
  · exact ⟨missingColumnsOf a b, missingColumnsOf b a, ⟨rfl, rfl⟩,
      fun _ => from_of_mem_missingColumnsOf, fun _ => from_of_mem_missingColumnsOf⟩
  · intro apartA apartB
    refine ⟨?_, ?_, mirrored a b, fst_mirrored a b, snd_mirrored apartA apartB,
      fun _ _ => mirrors_of_mem_mirrored⟩
    · have lengths := (perm_matched apartA apartB).length_eq
      simpa [compare] using lengths.symm
    · rw [Bool.eq_iff_iff, ← not_iff_not, Bool.not_eq_true, Bool.not_eq_true,
        nothing_iff_sameStructure style apartB apartA, nothing_iff_sameStructure style apartA apartB]
      exact ⟨Schema.SameStructure.symm, Schema.SameStructure.symm⟩

theorem compare_mirrored_users :
    let a := Schema.ofTables "a" [
      { name := "Users", columns := [{ name := "id" },
        { name := "age", dataType := "INT", isNullable := false }] },
      { name := "logs", columns := [{ name := "at" }] }]
    let b := Schema.ofTables "b" [
      { name := "users", columns := [{ name := "AGE", dataType := "BIGINT" }, { name := "mail" }] }]
    (a.Apart ∧ b.Apart) ∧
      (compare {} b a).matchingTables.length = (compare {} a b).matchingTables.length ∧
      (compare {} b a).hasDifferences = (compare {} a b).hasDifferences ∧
      ∃ d e : ColumnDifference, (compare {} a b).differentColumns = [d] ∧
        (compare {} b a).differentColumns = [e] ∧ d.Mirrors e ∧
        e.changes.map Change.describe =
          [lit "Data type: BIGINT vs INT", lit "Nullable: YES vs NO"] := by
  intro a b
  have apart : a.Apart ∧ b.Apart := by decide +kernel
  obtain ⟨_, _, mirror⟩ := compare_mirrored {} a b
  obtain ⟨matching, differences, pairs, first, second, mirrors⟩ := mirror apart.1 apart.2
  have one : (compare {} a b).differentColumns.length = 1 := by decide +kernel
  rw [← first, List.length_map] at one
  obtain ⟨⟨d, e⟩, rfl⟩ := List.length_eq_one_iff.mp one
  have back : (compare {} b a).differentColumns = [e] := List.singleton_perm.mp second |>.symm
  refine ⟨apart, matching, differences, d, e, first.symm, back, mirrors d e (by simp), ?_⟩
  have texts : (compare {} b a).differentColumns.map (fun x => x.changes.map Change.describe) =
      [[lit "Data type: BIGINT vs INT", lit "Nullable: YES vs NO"]] := by decide +kernel
  rw [back] at texts
  exact List.singleton_injective texts

end SchemaDiff
