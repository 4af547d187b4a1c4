import SchemaDiff.Proofs.Column
import SchemaDiff.Proofs.Comparison.Settled

/-
Schemas of one structure: the same names of tables and columns up to case, and the same attributes of
each column. Where the names of a schema differ up to case, these are the schemas between which a
comparison finds no differences.
-/
namespace SchemaDiff
open Text

/-- The same column names up to case, and columns of one name with the same attributes. The order of
the columns and the options of the tables do not count. -/
structure Table.SameColumns (t u : Table) : Prop where
  names : ∀ n, n ∈ t.columns.map (lower ·.name) ↔ n ∈ u.columns.map (lower ·.name)
  attributes : ∀ c ∈ t.columns, ∀ d ∈ u.columns, lower c.name = lower d.name → c.SameAttributes d

/-- The same table names up to case, and tables of one name with the same columns. -/
structure Schema.SameStructure (a b : Schema) : Prop where
  names : ∀ n, n ∈ a.tables.map (lower ·.name) ↔ n ∈ b.tables.map (lower ·.name)
  columns : ∀ t ∈ a.tables, ∀ u ∈ b.tables, lower t.name = lower u.name → t.SameColumns u

section

variable {α : Type} {name : α → Text}

theorem exists_partner {xs ys : List α}
    (names : ∀ n, n ∈ xs.map (fun x => lower (name x)) ↔ n ∈ ys.map fun y => lower (name y))
    {x : α} (member : x ∈ xs) : ∃ y ∈ ys, lower (name y) = lower (name x) :=
  List.mem_map.mp ((names (lower (name x))).mp (List.mem_map_of_mem member))

theorem eq_of_lower {xs : List α} (distinct : (xs.map fun x => lower (name x)).Nodup) {x y : α}
    (first : x ∈ xs) (second : y ∈ xs) (same : lower (name x) = lower (name y)) : x = y :=
  List.inj_on_of_nodup_map distinct first second same

end

namespace Table

variable {t u v : Table}

theorem SameColumns.refl (distinct : (t.columns.map (lower ·.name)).Nodup) : t.SameColumns t := by
  refine ⟨fun _ => Iff.rfl, ?_⟩
  intro c first d second same
  rw [eq_of_lower distinct first second same]
  exact Column.SameAttributes.refl d

theorem SameColumns.symm (same : t.SameColumns u) : u.SameColumns t := by
  refine ⟨fun n => (same.names n).symm, ?_⟩
  intro d second c first names
  exact (same.attributes c first d second names.symm).symm

theorem SameColumns.trans (first : t.SameColumns u) (second : u.SameColumns v) :
    t.SameColumns v := by
  refine ⟨fun n => (first.names n).trans (second.names n), ?_⟩
  intro c memberC e memberE names
  obtain ⟨d, memberD, between⟩ := exists_partner first.names memberC
  exact (first.attributes c memberC d memberD between.symm).trans
    (second.attributes d memberD e memberE (between.trans names))

theorem inSync_iff (distinct : (u.columns.map (lower ·.name)).Nodup) :
    t.InSync u ↔ t.SameColumns u := by
  constructor
  · intro sync
    have source := unmatched_eq_nil_iff_subset.mp sync.source
    have target := unmatched_eq_nil_iff_subset.mp sync.target
    refine ⟨fun n => ⟨fun member => source member, fun member => target member⟩, ?_⟩
    intro c first d second names
    by_contra differ
    have found : u.findColumn? c.name = some d := findColumn?_of_distinct distinct second names.symm
    have listed : (c, d) ∈ t.different u :=
      mem_different.mpr ⟨first, found, mt Column.changes_eq_nil.mp differ⟩
    simp [sync.same] at listed
  · intro same
    refine ⟨unmatched_eq_nil_iff_subset.mpr fun n => (same.names n).mp,
      unmatched_eq_nil_iff_subset.mpr fun n => (same.names n).mpr, ?_⟩
    rw [List.eq_nil_iff_forall_not_mem]
    rintro ⟨c, d⟩ member
    obtain ⟨listed, found, differ⟩ := mem_different.mp member
    obtain ⟨inside, names⟩ := mem_of_findColumn? found
    exact differ (Column.changes_eq_nil.mpr (same.attributes c listed d inside names.symm))

end Table

namespace Schema

variable {a b c : Schema}

theorem SameStructure.refl (apart : a.Apart) : a.SameStructure a := by
  refine ⟨fun _ => Iff.rfl, ?_⟩
  intro t first u second same
  rw [eq_of_lower apart.tables first second same]
  exact Table.SameColumns.refl (apart.columns u second)

theorem SameStructure.symm (same : a.SameStructure b) : b.SameStructure a := by
  refine ⟨fun n => (same.names n).symm, ?_⟩
  intro u second t first names
  exact (same.columns t first u second names.symm).symm

theorem SameStructure.trans (first : a.SameStructure b) (second : b.SameStructure c) :
    a.SameStructure c := by
  refine ⟨fun n => (first.names n).trans (second.names n), ?_⟩
  intro t memberT v memberV names
  obtain ⟨u, memberU, between⟩ := exists_partner first.names memberT
  exact (first.columns t memberT u memberU between.symm).trans
    (second.columns u memberU v memberV (between.trans names))

end Schema

section

variable {a b : Schema}

theorem nothing_iff_sameStructure (style : Ddl.Style) (apartA : a.Apart) (apartB : b.Apart) :
    (compare style a b).hasDifferences = false ↔ a.SameStructure b := by
  rw [nothing_iff_inSync style apartA apartB, Schema.unmatched_eq_nil_iff_subset,
    Schema.unmatched_eq_nil_iff_subset]
  constructor
  · rintro ⟨source, target, pairs⟩
    refine ⟨fun n => ⟨fun member => source member, fun member => target member⟩, ?_⟩
    intro t first u second names
    have found : b.find? t.name = some u := Schema.find?_of_distinct apartB.tables second names.symm
    exact (Table.inSync_iff (apartB.columns u second)).mp
      (pairs t u (Schema.mem_matched.mpr ⟨first, found⟩))
  · intro same
    refine ⟨fun n => (same.names n).mp, fun n => (same.names n).mpr, ?_⟩
    intro t u pair
    obtain ⟨listed, found⟩ := Schema.mem_matched.mp pair
    obtain ⟨inside, names⟩ := Schema.mem_of_find? found
    exact (Table.inSync_iff (apartB.columns u inside)).mpr
      (same.columns t listed u inside names.symm)

end

/-- Where the names of each schema differ up to case, no differences are found between schemas of one
structure only, and to have none between them is an equivalence. -/
theorem hasDifferences_equivalence (style : Ddl.Style) :
    (∀ a b : Schema, a.Apart → b.Apart →
      ((compare style a b).hasDifferences = false ↔ a.SameStructure b)) ∧
    Equivalence fun a b : {s : Schema // s.Apart} =>
      (compare style a b).hasDifferences = false := by
  refine ⟨fun a b apartA apartB => nothing_iff_sameStructure style apartA apartB, ?_, ?_, ?_⟩
  · rintro ⟨a, apart⟩
    exact (nothing_iff_sameStructure style apart apart).mpr (Schema.SameStructure.refl apart)
  · rintro ⟨a, apartA⟩ ⟨b, apartB⟩ nothing
    have same := (nothing_iff_sameStructure style apartA apartB).mp nothing
    exact (nothing_iff_sameStructure style apartB apartA).mpr same.symm
  · rintro ⟨a, apartA⟩ ⟨b, apartB⟩ ⟨c, apartC⟩ first second
    have sameAB := (nothing_iff_sameStructure style apartA apartB).mp first
    have sameBC := (nothing_iff_sameStructure style apartB apartC).mp second
    exact (nothing_iff_sameStructure style apartA apartC).mpr (sameAB.trans sameBC)

theorem hasDifferences_equivalence_reordered :
    let a := Schema.ofTables "a" [
      { name := "Users", columns := [{ name := "Id", dataType := "INT" }, { name := "mail" }] },
      { name := "logs", columns := [{ name := "at" }], engine := some (lit "InnoDB") }]
    let b := Schema.ofTables "b" [
      { name := "LOGS", columns := [{ name := "At", definition := "At text" }] },
      { name := "users", columns := [{ name := "MAIL" }, { name := "id", dataType := "INT" }] }]
    let c := Schema.ofTables "c" [
      { name := "users", columns := [{ name := "id", dataType := "INT" }, { name := "Mail" }] },
      { name := "Logs", columns := [{ name := "at" }], collation := some (lit "binary") }]
    (a.Apart ∧ b.Apart ∧ c.Apart) ∧
      (compare {} a b).hasDifferences = false ∧ (compare {} b c).hasDifferences = false ∧
      (compare {} b a).hasDifferences = false ∧ (compare {} a c).hasDifferences = false ∧
      a.SameStructure b := by
  intro a b c
  have apart : a.Apart ∧ b.Apart ∧ c.Apart := by decide +kernel
  obtain ⟨apartA, apartB, apartC⟩ := apart
  have first : (compare {} a b).hasDifferences = false := by decide +kernel
  have second : (compare {} b c).hasDifferences = false := by decide +kernel
  obtain ⟨structural, equivalence⟩ := hasDifferences_equivalence {}
  have back := @Equivalence.symm _ _ equivalence ⟨a, apartA⟩ ⟨b, apartB⟩ first
  have through :=
    @Equivalence.trans _ _ equivalence ⟨a, apartA⟩ ⟨b, apartB⟩ ⟨c, apartC⟩ first second
  exact ⟨⟨apartA, apartB, apartC⟩, first, second, back, through,
    (structural a b apartA apartB).mp first⟩

end SchemaDiff
