import SchemaDiff.Proofs.Comparison.Correspondence

/-
What the style says about collations changes the texts of statements and nothing else. Where it asks for
none, the statements that create tables or add columns are the same whatever character sets the columns
have and whatever collations columns and tables have, and so is the rendering of modified columns.
-/
namespace SchemaDiff
open Text Ddl Comparison

def Column.uncollated (c : Column) : Column := { c with charset := none, collation := none }

def Table.uncollated (t : Table) : Table :=
  { t with columns := t.columns.map Column.uncollated, collation := none }

/-- The same tables in the same order, but for the character sets of columns and the collations of columns
and tables. -/
structure Schema.SameButCollations (a a' : Schema) : Prop where
  source : a.source = a'.source
  tables : a.tables.map Table.uncollated = a'.tables.map Table.uncollated

instance (a a' : Schema) : Decidable (a.SameButCollations a') :=
  decidable_of_iff (a.source = a'.source ∧
      a.tables.map Table.uncollated = a'.tables.map Table.uncollated)
    ⟨fun h => ⟨h.1, h.2⟩, fun h => ⟨h.source, h.tables⟩⟩

/-- The same records, and as many statements of each kind. -/
structure Comparison.SameRecords (r s : Comparison) : Prop where
  missingTables : r.missingTables = s.missingTables
  missingColumns : r.missingColumns = s.missingColumns
  differentColumns : r.differentColumns = s.differentColumns
  matchingTables : r.matchingTables = s.matchingTables
  creates : r.createStatements.length = s.createStatements.length
  adds : r.addStatements.length = s.addStatements.length
  modifies : r.modifyStatements.length = s.modifyStatements.length

theorem name_of_uncollated {c d : Column} (same : c.uncollated = d.uncollated) : c.name = d.name :=
  (Column.mk.inj same).1

namespace Table

variable {t t' u u' : Table}

theorem name_of_uncollated (same : t.uncollated = t'.uncollated) : t.name = t'.name :=
  (Table.mk.inj same).1

theorem columns_of_uncollated (same : t.uncollated = t'.uncollated) :
    List.Forall₂ (fun c d => c.uncollated = d.uncollated) t.columns t'.columns :=
  forall₂_iff_map_eq.mpr (Table.mk.inj same).2.1

theorem names_of_uncollated (same : t.uncollated = t'.uncollated) :
    t.columns.map Column.name = t'.columns.map Column.name :=
  map_eq_of_forall₂ (fun _ _ => SchemaDiff.name_of_uncollated) (columns_of_uncollated same)

theorem unmatched_of_uncollated (first : t.uncollated = t'.uncollated)
    (second : u.uncollated = u'.uncollated) :
    List.Forall₂ (fun c d => c.uncollated = d.uncollated) (t.unmatched u) (t'.unmatched u') := by
  have named : ∀ c d : Column, c.uncollated = d.uncollated → c.name = d.name :=
    fun _ _ => SchemaDiff.name_of_uncollated
  exact lacking_of_forall₂ named (columns_of_uncollated first) (columns_of_uncollated second)

end Table

section

variable {style : Style} (off : style.collations = false)

include off

theorem column_of_uncollated {c d : Column} (same : c.uncollated = d.uncollated)
    (tableCollation tableCollation' : Option Text) (sayNull : Bool) :
    style.column tableCollation sayNull c = style.column tableCollation' sayNull d := by
  have bare : ∀ (collation : Option Text) (c : Column),
      style.column collation sayNull c = style.column none sayNull c.uncollated := by
    intro collation c
    obtain ⟨quoting, _⟩ := style
    cases off
    rfl
  rw [bare, bare tableCollation', same]

theorem map_column_of_uncollated {columns columns' : List Column}
    (same : columns.map Column.uncollated = columns'.map Column.uncollated)
    (tableCollation tableCollation' : Option Text) (sayNull : Bool) :
    columns.map (style.column tableCollation sayNull) =
      columns'.map (style.column tableCollation' sayNull) := by
  have each : List.Forall₂ (fun c d => c.uncollated = d.uncollated) columns columns' :=
    forall₂_iff_map_eq.mpr same
  exact map_eq_of_forall₂
    (fun _ _ same => column_of_uncollated off same tableCollation tableCollation' sayNull) each

theorem createTable_of_uncollated {t t' : Table} (same : t.uncollated = t'.uncollated) :
    style.createTable t = style.createTable t' := by
  obtain ⟨name, columns, _, engine, charset, _⟩ := t
  obtain ⟨name', columns', _, engine', charset', _⟩ := t'
  obtain ⟨rfl, each, _, rfl, rfl, _⟩ := Table.mk.inj same
  have columns := map_column_of_uncollated off each none none false
  simp only [Style.createTable, columns, off, provided, Bool.false_eq_true, ↓reduceIte]

theorem modifyColumns_of_uncollated {columns columns' : List Column}
    (same : columns.map Column.uncollated = columns'.map Column.uncollated) (name : Text)
    (t t' : Option Table) :
    style.modifyColumns name columns t = style.modifyColumns name columns' t' := by
  have texts := map_column_of_uncollated off same
    (t.bind (·.collation)) (t'.bind (·.collation)) true
  have clauses := congrArg (List.map fun text : Text => lit "MODIFY COLUMN " ++ text) texts
  rw [List.map_map, List.map_map] at clauses
  have none : columns = [] ↔ columns' = [] := by
    rw [← List.map_eq_nil_iff (f := Column.uncollated), same, List.map_eq_nil_iff]
  simp only [Style.modifyColumns, none]
  split
  · rfl
  · exact congrArg (style.alterTable name) clauses

theorem addClauses_of_uncollated {columns columns' : List (Column × Option Table)}
    (same : List.Forall₂ (fun x y => x.1.uncollated = y.1.uncollated) columns columns')
    (previous : Option Text) :
    style.addClauses previous columns = style.addClauses previous columns' := by
  induction same generalizing previous with
  | nil => rfl
  | @cons x y _ _ first _ ih =>
    have name : x.1.name = y.1.name := name_of_uncollated first
    have text := column_of_uncollated off first
      (x.2.bind (·.collation)) (y.2.bind (·.collation)) true
    rw [Style.addClauses, Style.addClauses, name, text, ih]

structure SameAddition (x y : Addition) : Prop where
  tableName : x.tableName = y.tableName
  column : x.column.uncollated = y.column.uncollated
  addedTo : x.addedTo.uncollated = y.addedTo.uncollated

theorem addStatement_of_uncollated {group group' : List Addition}
    (same : List.Forall₂ SameAddition group group') (name : Text) :
    addStatement style name group = addStatement style name group' := by
  cases same with
  | nil => rfl
  | @cons x y others others' first rest =>
    have last : x.addedTo.lastColumn?.map (·.name) = y.addedTo.lastColumn?.map (·.name) := by
      rw [Table.lastColumn?, Table.lastColumn?, ← List.getLast?_map, ← List.getLast?_map,
        Table.names_of_uncollated first.addedTo]
    have columns : List.Forall₂ (fun c d : Column × Option Table => c.1.uncollated = d.1.uncollated)
        ((x :: others).map fun x => (x.column, some x.declaredIn))
        ((y :: others').map fun y => (y.column, some y.declaredIn)) := by
      rw [List.forall₂_map_left_iff, List.forall₂_map_right_iff]
      exact (List.Forall₂.cons first rest).imp fun _ _ same => same.column
    have clauses := addClauses_of_uncollated off columns (x.addedTo.lastColumn?.map (·.name))
    rw [addStatement, addStatement, Style.addColumns, Style.addColumns, if_neg (by simp),
      if_neg (by simp)]
    refine congrArg (style.alterTable name) (clauses.trans ?_)
    rw [last]
    rfl

end

namespace Comparison

section

variable {a a' b b' : Schema}
  (source : List.Forall₂ (fun t t' => t.uncollated = t'.uncollated) a.tables a'.tables)
  (target : List.Forall₂ (fun t t' => t.uncollated = t'.uncollated) b.tables b'.tables)

include source target

theorem additions_of_uncollated :
    List.Forall₂ SameAddition (additions a b) (additions a' b') := by
  have named : ∀ t t' : Table, t.uncollated = t'.uncollated → t.name = t'.name :=
    fun _ _ => Table.name_of_uncollated
  refine List.rel_append (List.rel_flatMap (Schema.forall₂_matched named source target) ?_)
    (List.rel_flatMap (Schema.forall₂_matched named target source) ?_)
  · rintro ⟨t, u⟩ ⟨t', u'⟩ ⟨declares, lacks⟩
    rw [List.forall₂_map_left_iff, List.forall₂_map_right_iff]
    exact (Table.unmatched_of_uncollated declares lacks).imp fun _ _ same =>
      ⟨named t t' declares, same, lacks⟩
  · rintro ⟨u, t⟩ ⟨u', t'⟩ ⟨declares, lacks⟩
    rw [List.forall₂_map_left_iff, List.forall₂_map_right_iff]
    exact (Table.unmatched_of_uncollated declares lacks).imp fun _ _ same =>
      ⟨named t t' lacks, same, lacks⟩

variable {style : Style} (off : style.collations = false)

include off

theorem createStatements_of_uncollated :
    (compare style a b).createStatements = (compare style a' b').createStatements := by
  have named : ∀ t t' : Table, t.uncollated = t'.uncollated → t.name = t'.name :=
    fun _ _ => Table.name_of_uncollated
  have missing : ∀ {a a' b b' : Schema},
      List.Forall₂ (fun t t' => t.uncollated = t'.uncollated) (a.unmatched b) (a'.unmatched b') →
      (missingTablesOf a b).map (fun m => style.createTable m.table) =
        (missingTablesOf a' b').map fun m => style.createTable m.table := by
    intro a a' b b' same
    rw [missingTablesOf, missingTablesOf, List.map_map, List.map_map]
    exact map_eq_of_forall₂ (fun _ _ => createTable_of_uncollated off) same
  have fromSource := missing (Schema.forall₂_unmatched named source target)
  have fromTarget := missing (Schema.forall₂_unmatched named target source)
  simp only [compare, List.map_append, fromSource, fromTarget]

theorem addStatements_of_uncollated :
    (compare style a b).addStatements = (compare style a' b').addStatements := by
  have groups := forall₂_gather (fun _ _ same => same.tableName)
    (additions_of_uncollated source target)
  refine map_eq_of_forall₂ ?_ groups
  rintro ⟨name, group⟩ ⟨_, group'⟩ ⟨rfl, same⟩
  exact addStatement_of_uncollated off same name

end

end Comparison

/-- Whether collations are written is seen in the texts of statements only; and where they are not, neither
a created table nor an added or modified column tells what they are. -/
theorem compare_collations (quoting : Quoting) (a b : Schema) :
    let on : Style := ⟨quoting, true⟩
    let off : Style := ⟨quoting, false⟩
    SameRecords (compare on a b) (compare off a b) ∧
    (∀ a' b' : Schema, a'.SameButCollations a → b'.SameButCollations b →
      (compare off a' b').createStatements = (compare off a b).createStatements ∧
      (compare off a' b').addStatements = (compare off a b).addStatements) ∧
    ∀ (name : Text) (columns columns' : List Column) (declaredIn declaredIn' : Option Table),
      columns'.map Column.uncollated = columns.map Column.uncollated →
      off.modifyColumns name columns' declaredIn' = off.modifyColumns name columns declaredIn := by
  intro on off
  refine ⟨⟨rfl, rfl, rfl, rfl, ?_, ?_, ?_⟩, ?_, ?_⟩
  · simp only [compare, List.length_map]
  · simp only [compare, List.length_map]
  · simp only [compare, List.length_map]
  · intro a' b' source target
    have source := forall₂_iff_map_eq.mpr source.tables
    have target := forall₂_iff_map_eq.mpr target.tables
    exact ⟨createStatements_of_uncollated source target rfl,
      addStatements_of_uncollated source target rfl⟩
  · intro name columns columns' declaredIn declaredIn' same
    exact modifyColumns_of_uncollated rfl same name declaredIn' declaredIn

theorem compare_collations_users :
    let mail := fun own : Option Text =>
      ({ name := "mail", dataType := "VARCHAR(9)", charset := own, collation := own } : Column)
    let users := fun inherited own : Option Text => Schema.ofTables "a" [
      { name := "Users", columns := [{ name := "id" }, mail own], collation := inherited },
      { name := "logs", columns := [{ name := "at", collation := own }], collation := inherited }]
    let bare := Schema.ofTables "b" [{ name := "users", columns := [{ name := "ID" }] }]
    let on : Style := ⟨.backticks, true⟩
    let off : Style := ⟨.backticks, false⟩
    let marked := users (some "latin1_bin") (some "utf8mb4")
    let unmarked := users none none
    (marked.SameButCollations unmarked ∧ bare.SameButCollations bare) ∧
      SameRecords (compare on marked bare) (compare off marked bare) ∧
      (compare off marked bare).createStatements = (compare off unmarked bare).createStatements ∧
      (compare off marked bare).addStatements = (compare off unmarked bare).addStatements ∧
      off.modifyColumns "Users" [mail (some "utf8mb4")] (marked.find? "users") =
        off.modifyColumns "Users" [mail none] (unmarked.find? "users") ∧
      (compare on marked bare).createStatements ≠ (compare on unmarked bare).createStatements ∧
      (compare on marked bare).addStatements ≠ (compare on unmarked bare).addStatements := by
  intro mail users bare on off marked unmarked
  have same : marked.SameButCollations unmarked ∧ bare.SameButCollations bare := by
    decide +kernel
  obtain ⟨records, _, _⟩ := compare_collations .backticks marked bare
  obtain ⟨_, texts, rewritten⟩ := compare_collations .backticks unmarked bare
  obtain ⟨creates, adds⟩ := texts marked bare same.1 same.2
  have modifies := rewritten "Users" [mail none] [mail (some "utf8mb4")] (unmarked.find? "users")
    (marked.find? "users") rfl
  exact ⟨same, records, creates, adds, modifies, by decide +kernel, by decide +kernel⟩

end SchemaDiff
