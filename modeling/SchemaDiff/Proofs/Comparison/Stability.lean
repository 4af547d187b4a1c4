import SchemaDiff.Ddl.Dump
import SchemaDiff.Proofs.Column
import SchemaDiff.Proofs.Comparison.Settled
import SchemaDiff.Proofs.Schema.Merge
import SchemaDiff.Sql.RuleTable

/-
A script compared with itself. Its tables are all found again. Names that differ in case only are all
matched with the first of them, so the two readings are in sync where every column is like the first one
of its name in the first table of its name.
-/
namespace SchemaDiff
open Text Ddl

def Table.labelled (label : Text) (t : Table) : Table := { t with source := label }

/-- Every column has the attributes of the first column of its name in the first table of its name,
names being the same up to case. -/
def Schema.FollowsFirst (s : Schema) : Prop :=
  ∀ t ∈ s.tables, ∀ u, IsFirst Table.name s.tables t.name u →
    ∀ c ∈ t.columns, ∃ d, IsFirst Column.name u.columns c.name d ∧ c.SameAttributes d

theorem readTable_labelled (label label' statement : Text) :
    readTable label' statement = (readTable label statement).map (Table.labelled label') := by
  rw [readTable, readTable, Option.map_map]
  rfl

theorem readTables_labelled (lexer : Sql.Lexer) (label label' script : Text) :
    readTables lexer label' script = (readTables lexer label script).map (Table.labelled label') := by
  rw [readTables, readTables, List.map_filterMap]
  exact List.filterMap_congr fun statement _ => readTable_labelled label label' statement

theorem put_labelled (label key : Text) (table : Table) (entries : List (Text × Table)) :
    Schema.put key (table.labelled label) (entries.map (Prod.map id (Table.labelled label))) =
      (Schema.put key table entries).map (Prod.map id (Table.labelled label)) := by
  induction entries with
  | nil => rfl
  | cons entry rest ih =>
    simp only [Schema.put, List.map_cons, Prod.map_fst, id_eq]
    split
    · rfl
    · rw [ih]
      rfl

theorem putAll_labelled (label : Text) (tables : List Table) (entries : List (Text × Table)) :
    Schema.putAll (entries.map (Prod.map id (Table.labelled label)))
        ((tables.map (Table.labelled label)).map fun t => (t.name, t)) =
      (Schema.putAll entries (tables.map fun t => (t.name, t))).map
        (Prod.map id (Table.labelled label)) := by
  induction tables generalizing entries with
  | nil => rfl
  | cons t others ih =>
    have first : Schema.put (t.labelled label).name (t.labelled label)
        (entries.map (Prod.map id (Table.labelled label))) =
          (Schema.put t.name t entries).map (Prod.map id (Table.labelled label)) :=
      put_labelled label t.name t entries
    simp only [Schema.putAll, List.map_cons, List.foldl_cons] at ih ⊢
    rw [first, ih]

theorem tables_readSchema_labelled (lexer : Sql.Lexer) (label label' script : Text) :
    (readSchema lexer label' script).tables =
      (readSchema lexer label script).tables.map (Table.labelled label') := by
  have entries := putAll_labelled label' (readTables lexer label script) []
  rw [← readTables_labelled, List.map_nil] at entries
  rw [Schema.tables, readSchema, Schema.ofTables, Schema.entries_ofEntries, entries, Schema.tables,
    readSchema, Schema.ofTables, Schema.entries_ofEntries, List.map_map, List.map_map]
  exact List.map_congr_left fun entry _ => rfl

section

variable {a b : Schema} {label : Text}

theorem find?_labelled (same : b.tables = a.tables.map (Table.labelled label)) (name : Text) :
    b.find? name = (a.find? name).map (Table.labelled label) := by
  rw [Schema.find?, same, List.find?_map]
  rfl

theorem names_labelled (same : b.tables = a.tables.map (Table.labelled label)) :
    b.tables.map (lower ·.name) = a.tables.map (lower ·.name) := by
  rw [same, List.map_map]
  rfl

theorem unmatched_labelled (same : b.tables = a.tables.map (Table.labelled label)) :
    a.unmatched b = [] ∧ b.unmatched a = [] := by
  rw [Schema.unmatched_eq_nil_iff_subset, Schema.unmatched_eq_nil_iff_subset, names_labelled same]
  exact ⟨List.Subset.refl _, List.Subset.refl _⟩

theorem mem_matched_labelled (same : b.tables = a.tables.map (Table.labelled label)) {t u : Table} :
    (t, u) ∈ a.matched b ↔ t ∈ a.tables ∧ ∃ v, a.find? t.name = some v ∧ v.labelled label = u := by
  rw [Schema.mem_matched, find?_labelled same, Option.map_eq_some_iff]

theorem follows_iff {t u : Table} : t.unmatched u = [] ∧ t.different u = [] ↔
    ∀ c ∈ t.columns, ∃ d, IsFirst Column.name u.columns c.name d ∧ c.SameAttributes d := by
  constructor
  · rintro ⟨noMissing, noDifferent⟩ c member
    obtain ⟨d, found⟩ := Option.isSome_iff_exists.mp (Table.unmatched_eq_nil.mp noMissing c member)
    refine ⟨d, Table.findColumn?_eq_some.mp found, ?_⟩
    by_contra differ
    have listed : (c, d) ∈ t.different u :=
      Table.mem_different.mpr ⟨member, found, mt Column.changes_eq_nil.mp differ⟩
    simp [noDifferent] at listed
  · intro follows
    constructor
    · rw [Table.unmatched_eq_nil]
      intro c member
      obtain ⟨d, first, _⟩ := follows c member
      exact Option.isSome_of_eq_some (Table.findColumn?_eq_some.mpr first)
    · rw [List.eq_nil_iff_forall_not_mem]
      rintro ⟨c, d⟩ listed
      obtain ⟨member, found, differ⟩ := Table.mem_different.mp listed
      obtain ⟨e, first, agree⟩ := follows c member
      cases first.unique (Table.findColumn?_eq_some.mp found)
      exact differ (Column.changes_eq_nil.mpr agree)

theorem matchingTables_eq (style : Style) (a b : Schema) :
    (compare style a b).matchingTables = ((a.matched b).map Prod.fst).map Table.name := by
  rw [List.map_map]
  rfl

theorem nothing_iff_followsFirst (style : Style)
    (same : b.tables = a.tables.map (Table.labelled label)) :
    (compare style a b).hasDifferences = false ↔ a.FollowsFirst := by
  rw [nothing_iff]
  constructor
  · rintro ⟨_, _, pairs, _⟩ t listed u first
    have pair : (t, u.labelled label) ∈ a.matched b :=
      (mem_matched_labelled same).mpr ⟨listed, u, Schema.find?_eq_some.mpr first, rfl⟩
    exact follows_iff.mp (pairs t (u.labelled label) pair)
  · intro follows
    obtain ⟨noTable, noTableBack⟩ := unmatched_labelled same
    refine ⟨noTable, noTableBack, ?_, ?_⟩
    · intro t u pair
      obtain ⟨listed, v, found, rfl⟩ := (mem_matched_labelled same).mp pair
      exact follows_iff.mpr (follows t listed v (Schema.find?_eq_some.mp found))
    · -- The other way round, too, a table is compared with the first one of its name.
      intro u t pair
      obtain ⟨inside, found⟩ := Schema.mem_matched.mp pair
      rw [same] at inside
      obtain ⟨v, listed, rfl⟩ := List.mem_map.mp inside
      exact (follows_iff.mpr (follows v listed t (Schema.find?_eq_some.mp found))).1

end

theorem Schema.Apart.followsFirst {s : Schema} (apart : s.Apart) : s.FollowsFirst := by
  intro t listed u first c member
  have only : s.find? t.name = some t := Schema.find?_of_distinct apart.tables listed rfl
  cases first.unique (Schema.find?_eq_some.mp only)
  have found : t.findColumn? c.name = some c :=
    Table.findColumn?_of_distinct (apart.columns t listed) member rfl
  exact ⟨c, Table.findColumn?_eq_some.mp found, Column.SameAttributes.refl c⟩

/-- Between two readings of one script no table is missing and every table is matched. No column is
missing or different, and no statement is generated, where each column is like the first of its name, in
particular where no two names of tables, or of columns in a table, are the same up to case. -/
theorem compare_reread (lexer : Sql.Lexer) (style : Style) (script label label' : Text) :
    let s := readSchema lexer label script
    let c := compare style s (readSchema lexer label' script)
    (c.missingTables = [] ∧ c.createStatements = [] ∧ c.matchingTables = s.tables.map Table.name) ∧
      (c.missingColumns = [] ∧ c.differentColumns = [] ∧ c.statements = [] ↔ s.FollowsFirst) ∧
      (s.Apart → s.FollowsFirst) := by
  intro s c
  have same := tables_readSchema_labelled lexer label label' script
  obtain ⟨noTable, noTableBack⟩ := unmatched_labelled same
  have noMissing : c.missingTables = [] := by
    simp [c, s, compare, Comparison.missingTablesOf, noTable, noTableBack]
  refine ⟨⟨noMissing, (createStatements_eq_nil style s _).mpr noMissing, ?_⟩, ?_,
    Schema.Apart.followsFirst⟩
  · have all : (s.matched (readSchema lexer label' script)).map Prod.fst = s.tables := by
      rw [Schema.fst_matched, List.filter_eq_self]
      exact Schema.unmatched_eq_nil.mp noTable
    rw [matchingTables_eq, all]
  · rw [← nothing_iff_followsFirst style same, statements_eq_nil, hasDifferences_eq_false]
    constructor
    · exact fun nothing => nothing.2.2
    · exact fun nothing => ⟨nothing.2.1, nothing.2.2, nothing⟩

theorem compare_reread_twice :
    let lexer := Sql.RuleTable.lexer
    let script := "CREATE TABLE T (a INT); CREATE TABLE u (b INT, C INT);CREATE TABLE T (A INT DEFAULT ';')"
    let s := readSchema lexer "source" script
    let c := compare {} s (readSchema lexer "target" script)
    s.Apart ∧ c.matchingTables = [lit "T", lit "u"] ∧ c.missingColumns = [] ∧
      c.differentColumns = [] ∧ c.statements = [] := by
  intro lexer script s c
  obtain ⟨⟨_, _, matching⟩, inSync, follows⟩ := compare_reread lexer {} script "source" "target"
  have read : s.Apart ∧ s.tables.map Table.name = [lit "T", lit "u"] := by decide +kernel
  obtain ⟨noMissing, noDifferent, noStatement⟩ := inSync.mpr (follows read.1)
  exact ⟨read.1, matching.trans read.2, noMissing, noDifferent, noStatement⟩

/-- Of two tables whose names differ in case only, the second is compared with the first, and so is the
second of two such columns. -/
theorem compare_reread_case :
    let lexer := Sql.RuleTable.lexer
    let reread := fun script : Text =>
      compare {} (readSchema lexer "source" script) (readSchema lexer "target" script)
    let tables := reread "CREATE TABLE T (a INT); CREATE TABLE t (b INT);"
    let columns := reread "CREATE TABLE t (a INT, A TEXT);"
    (tables.missingColumns.map (·.column.name) = [lit "b", lit "b"] ∧ tables.statements ≠ []) ∧
      (columns.differentColumns.map (·.source.name) = [lit "A"] ∧ columns.statements ≠ []) := by
  decide +kernel

end SchemaDiff
